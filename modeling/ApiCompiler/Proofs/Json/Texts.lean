import ApiCompiler.Json.Reader
import ApiCompiler.Json.Writer
import Mathlib.Tactic.Common

/-!
# Texts read back

Every character of a text is written as it is, as an escape of one letter, or as an escape by code units,
of which a character beyond the first 65536 takes two (`Escapes`).  Each of these is read back as the
character (`textFrom_escapes`), so a text is read back in every style (`readText_writeText`).
-/

namespace ApiCompiler
namespace Json

/-! ## Code units -/

theorem hexValue?_hexDigit {d : Nat} (h : d < 16) : CodePoints.hexValue? (Text.hexDigit d) = some d := by
  have hall : ∀ d, d < 16 → CodePoints.hexValue? (Text.hexDigit d) = some d := by decide
  exact hall d h

/-- Sixteen bits read back as themselves. -/
theorem codeUnit?_hexDigits {n : Nat} (h : n < 0x10000) (rest : List Char) :
    codeUnit? (Text.hexDigits 4 n ++ rest) = some (n, rest) := by
  have hvalue : ∀ m, CodePoints.hexValue? (Text.hexDigit (m % 16)) = some (m % 16) :=
    fun m => hexValue?_hexDigit (Nat.mod_lt m (by decide))
  have hsum : n / 16 / 16 / 16 % 16 * 4096 + n / 16 / 16 % 16 * 256 + n / 16 % 16 * 16 + n % 16 = n := by
    omega
  simp only [Text.hexDigits, List.nil_append, List.cons_append, codeUnit?, hvalue, hsum]

theorem length_hexDigits (k n : Nat) : (Text.hexDigits k n).length = k := by
  induction k generalizing n with
  | zero => rfl
  | succ k ih => rw [Text.hexDigits, List.length_append, ih, List.length_singleton]

/-- A character is no half of a pair of code units. -/
theorem not_surrogate (c : Char) : c.toNat < 0xD800 ∨ 0xE000 ≤ c.toNat ∧ c.toNat < 0x110000 := by
  rcases c.valid with h | ⟨hlow, hhigh⟩
  · exact Or.inl h
  · exact Or.inr ⟨hlow, hhigh⟩

/-- A character of one code unit reads back from it. -/
theorem unitEscape?_one {c : Char} (h : c.toNat < 0x10000) {rest : List Char} (hrest : rest ≠ []) :
    unitEscape? (Text.hexDigits 4 c.toNat ++ rest) = .ok (c, rest) := by
  have hhigh : ¬ (0xD800 ≤ c.toNat ∧ c.toNat < 0xDC00) := by
    rcases not_surrogate c with hc | hc <;> omega
  have hlow : ¬ (0xDC00 ≤ c.toNat ∧ c.toNat < 0xE000) := by
    rcases not_surrogate c with hc | hc <;> omega
  cases rest with
  | nil => exact absurd rfl hrest
  | cons d ds =>
    simp only [unitEscape?, codeUnit?_hexDigits h, Bool.and_eq_true, decide_eq_true_eq, hhigh, hlow,
      if_false, Char.ofNat_toNat]

/-- A character of two code units reads back from them. -/
theorem unitEscape?_two {c : Char} (h : 0x10000 ≤ c.toNat) {rest : List Char} (hrest : rest ≠ []) :
    unitEscape? (Text.hexDigits 4 (0xD800 + (c.toNat - 0x10000) / 0x400) ++
        (unitEscape (0xDC00 + c.toNat % 0x400) ++ rest)) = .ok (c, rest) := by
  have hbound : c.toNat < 0x110000 := by
    rcases not_surrogate c with hc | hc <;> omega
  have hunit : 0xD800 + (c.toNat - 0x10000) / 0x400 < 0xDC00 := by omega
  have hother : 0xDC00 + c.toNat % 0x400 < 0xE000 := by omega
  have hnext : ¬ (Text.hexDigits 4 (0xDC00 + c.toNat % 0x400) ++ rest).length < 5 := by
    have hlength := List.length_pos_iff.mpr hrest
    rw [List.length_append, length_hexDigits]
    omega
  have hchar : 0x10000 + (0xD800 + (c.toNat - 0x10000) / 0x400 - 0xD800) * 0x400 +
      (0xDC00 + c.toNat % 0x400 - 0xDC00) = c.toNat := by omega
  have hpair : 0xD800 ≤ 0xD800 + (c.toNat - 0x10000) / 0x400 ∧
      0xD800 + (c.toNat - 0x10000) / 0x400 < 0xDC00 := ⟨Nat.le_add_right _ _, hunit⟩
  have hpair' : 0xDC00 ≤ 0xDC00 + c.toNat % 0x400 ∧ 0xDC00 + c.toNat % 0x400 < 0xE000 :=
    ⟨Nat.le_add_right _ _, hother⟩
  rw [unitEscape?, codeUnit?_hexDigits (by omega)]
  simp only [unitEscape, List.cons_append, Bool.and_eq_true, decide_eq_true_eq, hpair, and_self, if_true,
    hnext, if_false, codeUnit?_hexDigits (Nat.lt_trans hother (by decide)), hpair', hchar,
    Char.ofNat_toNat]

/-! ## Characters -/

/-- The ways in which a character is written. -/
inductive Escapes (c : Char) : List Char → Prop
  | letter {e : Char} (he : letterEscape? e = some c) (hu : e ≠ 'u') : Escapes c ['\\', e]
  | unit (h : c.toNat < 0x10000) : Escapes c (unitEscape c.toNat)
  | units (h : 0x10000 ≤ c.toNat) :
      Escapes c (unitEscape (0xD800 + (c.toNat - 0x10000) / 0x400) ++
        unitEscape (0xDC00 + c.toNat % 0x400))
  | plain (hquote : c ≠ '"') (hslash : c ≠ '\\') (hcontrol : ¬ c.toNat < 0x20) : Escapes c [c]

/-- Every character is written in one of these ways. -/
theorem escapes_escaped (style : Style) (c : Char) : Escapes c (escaped style c) := by
  rw [escaped]
  by_cases hquote : c = '"'
  · rw [if_pos hquote]
    exact .letter (by rw [hquote]; rfl) (by decide)
  by_cases hslash : c = '\\'
  · rw [if_neg hquote, if_pos hslash]
    exact .letter (by rw [hslash]; rfl) (by decide)
  rw [if_neg hquote, if_neg hslash]
  by_cases hn : c = '\n'
  · rw [if_pos hn]
    exact .letter (by rw [hn]; rfl) (by decide)
  by_cases hr : c = '\r'
  · rw [if_neg hn, if_pos hr]
    exact .letter (by rw [hr]; rfl) (by decide)
  by_cases ht : c = '\t'
  · rw [if_neg hn, if_neg hr, if_pos ht]
    exact .letter (by rw [ht]; rfl) (by decide)
  rw [if_neg hn, if_neg hr, if_neg ht]
  by_cases hb : c = '\x08'
  · rw [if_pos hb]
    exact .letter (by rw [hb]; rfl) (by decide)
  by_cases hf : c = '\x0c'
  · rw [if_neg hb, if_pos hf]
    exact .letter (by rw [hf]; rfl) (by decide)
  rw [if_neg hb, if_neg hf]
  show Escapes c (if c.toNat < 0x20 then unitEscape c.toNat else _)
  by_cases hcontrol : c.toNat < 0x20
  · rw [if_pos hcontrol]
    exact .unit (Nat.lt_trans hcontrol (by decide))
  rw [if_neg hcontrol]
  by_cases hascii : (style.asciiOnly && decide (0x7F ≤ c.toNat)) = true
  · rw [if_pos hascii]
    by_cases hone : c.toNat < 0x10000
    · rw [if_pos hone]
      exact .unit hone
    · rw [if_neg hone]
      exact .units (Nat.le_of_not_lt hone)
  · rw [if_neg hascii]
    exact .plain hquote hslash hcontrol

/-- A character is read back from the way it is written, and the text goes on after it. -/
theorem textFrom_escapes {c : Char} {cs : List Char} (hcs : Escapes c cs) {start rest : List Char}
    {fuel : Nat} {p : List Char × List Char} (hrest : rest ≠ [])
    (h : textFrom start fuel rest = .ok p) :
    textFrom start (fuel + 1) (cs ++ rest) = .ok (c :: p.1, p.2) := by
  have hunits : ∀ units, unitEscape? units = .ok (c, rest) →
      textFrom start (fuel + 1) ('\\' :: 'u' :: units) = .ok (c :: p.1, p.2) := by
    intro units hunits
    rw [textFrom, hunits]
    simp only [bind, Except.bind, h]
    rfl
  cases hcs with
  | letter he hu =>
    rw [List.cons_append, List.singleton_append, textFrom]
    · rw [he, h]
      rfl
    · exact hu
  | unit hone => exact hunits _ (unitEscape?_one hone hrest)
  | units hmore =>
    rw [List.append_assoc]
    exact hunits _ (unitEscape?_two hmore hrest)
  | plain hquote hslash hcontrol =>
    rw [List.singleton_append, textFrom]
    · rw [if_neg hcontrol, h]
      rfl
    · exact hquote
    · exact hslash

theorem Escapes.length_pos {c : Char} {cs : List Char} (hcs : Escapes c cs) : 0 < cs.length := by
  cases hcs <;> exact Nat.succ_pos _

/-! ## Texts -/

theorem length_le_flatMap_escaped (style : Style) (cs : List Char) :
    cs.length ≤ (cs.flatMap (escaped style)).length := by
  induction cs with
  | nil => exact Nat.zero_le _
  | cons c cs ih =>
    have hpos := (escapes_escaped style c).length_pos
    rw [List.flatMap_cons, List.length_append, List.length_cons]
    omega

/-- The characters of a text are read back up to the closing quote. -/
theorem textFrom_flatMap_escaped (style : Style) (start cs rest : List Char) {fuel : Nat}
    (hfuel : cs.length < fuel) :
    textFrom start fuel (cs.flatMap (escaped style) ++ '"' :: rest) = .ok (cs, rest) := by
  induction cs generalizing fuel with
  | nil =>
    obtain ⟨fuel, rfl⟩ := Nat.exists_eq_succ_of_ne_zero (Nat.ne_of_gt hfuel)
    rfl
  | cons c cs ih =>
    obtain ⟨fuel, rfl⟩ := Nat.exists_eq_succ_of_ne_zero (Nat.ne_of_gt (Nat.zero_lt_of_lt hfuel))
    have hrest : cs.flatMap (escaped style) ++ '"' :: rest ≠ [] := by simp
    rw [List.flatMap_cons, List.append_assoc]
    exact textFrom_escapes (escapes_escaped style c) hrest (ih (Nat.lt_of_succ_lt_succ hfuel))

/-- A text reads back as itself. -/
theorem readText_writeText (style : Style) (s : String) (rest : List Char) :
    readText (writeText style s ++ rest) = .ok (s, rest) := by
  have hlength := length_le_flatMap_escaped style s.toList
  have htext : writeText style s ++ rest = '"' :: (s.toList.flatMap (escaped style) ++ '"' :: rest) := by
    simp [writeText]
  have hread : textFrom (writeText style s ++ rest) (writeText style s ++ rest).length
      (s.toList.flatMap (escaped style) ++ '"' :: rest) = .ok (s.toList, rest) := by
    apply textFrom_flatMap_escaped
    rw [htext, List.length_cons, List.length_append]
    omega
  have hdrop : (writeText style s ++ rest).drop 1 = s.toList.flatMap (escaped style) ++ '"' :: rest := by
    rw [htext]
    rfl
  rw [readText, hdrop, hread]
  simp [bind, Except.bind, pure, Except.pure]

end Json
end ApiCompiler
