import ApiCompiler.Proofs.Name.Boundaries

/-!
# Names that are split again

A name that was written in a case is a text, and can be split into words again.  This file says when
the words come back.

Between separators they always do.  The words are written in small letters there, so none of them
breaks (`wordsOf_intercalate`), and every case can be written from the result as from the text
itself (`separated_resplits`).

Without separators only capitals keep the boundaries.  A boundary is seen if the word that follows it
begins with a letter, which is written as a capital, and if the word before it does not end with one,
which a capitalized word of two characters or more never does (`wordsOf_flatten`).  For a text whose
words are of this kind (`Joinable`) Pascal case and camel case lose nothing but the case of letters
(`joined_resplits`).

Both rest on one fact about the words themselves: a word none of whose characters but the first is a
capital is found in front of any text, provided that a word ends there (`Unbroken.wordsOf_append`).
-/

namespace ApiCompiler
namespace Name

/-! ## ASCII texts -/

theorem toNat_lt_of_isWordChar {c : Char} (h : isWordChar c = true) : c.toNat < 0x80 := by
  simp only [isWordChar, Char.isAlphanum, Char.isAlpha, Char.isUpper, Char.isLower, Char.isDigit,
    UInt32.le_iff_toNat_le, Bool.or_eq_true, Bool.and_eq_true, decide_eq_true_eq, Char.reduceVal,
    UInt32.reduceToNat, Char.toNat_val] at h
  omega

/-- There are no accents to take off an ASCII text. -/
theorem words_of_ascii {cs : List Char} (h : ∀ c ∈ cs, c.toNat < 0x80) : words cs = wordsOf cs := by
  rw [words_eq, Text.stripAccents_of_ascii cs h]

/-! ## Words in a case -/

theorem isWordChar_toLower (c : Char) : isWordChar c.toLower = isWordChar c := by
  by_cases hupper : c.isUpper = true
  · have halpha : c.isAlpha = true := by rw [Char.isAlpha, hupper, Bool.true_or]
    rw [isWordChar, isWordChar, Char.isAlphanum, Char.isAlphanum, Char.isAlpha_toLower_eq_isAlpha,
      halpha, Bool.true_or, Bool.true_or]
  · rw [Char.toLower_eq_of_not_isUpper hupper]

theorem isWordChar_toUpper (c : Char) : isWordChar c.toUpper = isWordChar c := by
  rw [← isWordChar_toLower c.toUpper, Char.toLower_toUpper_eq_toLower, isWordChar_toLower]

theorem lower_lower (w : List Char) : lower (lower w) = lower w := by
  rw [lower, lower, List.map_map]
  exact List.map_congr_left fun c _ => Char.toLower_toLower_eq_toLower c

theorem capitalize_lower (w : List Char) : capitalize (lower w) = capitalize w := by
  cases w with
  | nil => rfl
  | cons c cs =>
    have htail : lower (lower cs) = lower cs := lower_lower cs
    simp only [lower, List.map_cons, capitalize, Char.toUpper_toLower_eq_toUpper] at htail ⊢
    rw [htail]

/-- A name in a case is made from the words in small letters. -/
theorem apply_congr {a b : List Char} (h : (words a).map lower = (words b).map lower) (c : Case) :
    c.apply a = c.apply b := by
  have hcapitalized : (words a).map capitalize = (words b).map capitalize := by
    have hmap := congrArg (List.map capitalize) h
    simpa only [List.map_map, Function.comp_def, capitalize_lower] using hmap
  cases c with
  | pascal => rw [Case.apply, pascal, hcapitalized, pascal]
  | camel => rw [Case.apply, camel, pascal, hcapitalized, camel, pascal]
  | snake => rw [Case.apply, snake, separated, h, snake, separated]
  | kebab => rw [Case.apply, kebab, separated, h, kebab, separated]

/-! ## Words that do not break -/

/-- Only the first character of a word may be a capital, so the word does not break. -/
structure Unbroken (w : List Char) : Prop where
  nonempty : w ≠ []
  chars : ∀ c ∈ w, isWordChar c = true
  small : ∀ c ∈ w.tail, c.isUpper = false

section

variable {w text : List Char}

theorem unbroken_lower (h : w ∈ words text) : Unbroken (lower w) := by
  obtain ⟨hne, hchars⟩ := wordsOf_spec _ w h
  refine ⟨fun hnil => hne (List.map_eq_nil_iff.mp hnil), fun c hc => ?_, fun c hc => ?_⟩
  · obtain ⟨d, hd, rfl⟩ := List.mem_map.mp hc
    rw [isWordChar_toLower]
    exact hchars d hd
  · obtain ⟨d, -, rfl⟩ := List.mem_map.mp (List.mem_of_mem_tail hc)
    exact Char.isUpper_toLower_eq_false d

theorem unbroken_capitalize (h : w ∈ words text) : Unbroken (capitalize w) := by
  obtain ⟨hne, hchars⟩ := wordsOf_spec _ w h
  cases w with
  | nil => exact absurd rfl hne
  | cons d ds =>
    rw [List.forall_mem_cons] at hchars
    refine ⟨List.cons_ne_nil _ _, List.forall_mem_cons.mpr ⟨?_, fun c hc => ?_⟩, fun c hc => ?_⟩
    · rw [isWordChar_toUpper]
      exact hchars.1
    · obtain ⟨e, he, rfl⟩ := List.mem_map.mp hc
      rw [isWordChar_toLower]
      exact hchars.2 e he
    · obtain ⟨e, -, rfl⟩ := List.mem_map.mp hc
      exact Char.isUpper_toLower_eq_false e

/-- A word that does not break is the first word of a text, if a word ends at its last character. -/
theorem Unbroken.wordsOf_append (h : Unbroken w) {rest : List Char}
    (hends : ∀ x ∈ w.getLast?, EndsWord x rest) : wordsOf (w ++ rest) = w :: wordsOf rest := by
  obtain ⟨hne, hchars, hsmall⟩ := h
  cases w with
  | nil => exact absurd rfl hne
  | cons c cs =>
    rw [List.tail_cons] at hsmall
    clear hne
    induction cs generalizing c with
    | nil =>
      rcases wordsOf_cons (hchars c List.mem_cons_self) rest with ⟨-, heq⟩ | ⟨hnot, -⟩
      · exact heq
      · exact absurd (hends c rfl) hnot
    | cons d ds ih =>
      rw [List.forall_mem_cons] at hchars hsmall
      have hnext : wordsOf (d :: ds ++ rest) = (d :: ds) :: wordsOf rest :=
        ih d (by rwa [List.getLast?_cons_cons] at hends) hchars.2 hsmall.2
      -- no word starts at a character that is not a capital
      have hgoes : ¬ EndsWord c (d :: ds ++ rest) := by
        intro hword
        have hstarts := hword d (ds ++ rest) rfl (hchars.2 d List.mem_cons_self)
        rw [startsWord, hsmall.1, Bool.false_and] at hstarts
        exact Bool.false_ne_true hstarts
      rcases wordsOf_cons hchars.1 (d :: ds ++ rest) with ⟨hword, -⟩ | ⟨-, v, vs, hwords, -, heq⟩
      · exact absurd hword hgoes
      · obtain ⟨rfl, rfl⟩ := List.cons.inj (hnext.symm.trans hwords)
        exact heq

theorem Unbroken.wordsOf_self (h : Unbroken w) : wordsOf w = [w] := by
  have hwords : wordsOf (w ++ []) = w :: wordsOf [] :=
    h.wordsOf_append fun x _ y after heq => nomatch heq
  rwa [List.append_nil] at hwords

end

/-! ## Words between separators -/

/-- Words in front of separators are found again, whatever they begin with. -/
theorem wordsOf_intercalate {separator : Char} (hseparator : isWordChar separator = false)
    {ws : List (List Char)} (h : ∀ w ∈ ws, Unbroken w) :
    wordsOf ([separator].intercalate ws) = ws := by
  induction ws with
  | nil => rfl
  | cons w ws ih =>
    rw [List.forall_mem_cons] at h
    cases ws with
    | nil =>
      rw [List.intercalate_singleton]
      exact h.1.wordsOf_self
    | cons v vs =>
      rw [List.intercalate_cons_cons, List.append_assoc, List.singleton_append,
        wordsOf_append hseparator, h.1.wordsOf_self, ih h.2, List.singleton_append]

theorem mem_intercalate_singleton {separator c : Char} {ws : List (List Char)}
    (h : c ∈ [separator].intercalate ws) : c = separator ∨ ∃ w ∈ ws, c ∈ w := by
  induction ws with
  | nil => cases h
  | cons w ws ih =>
    cases ws with
    | nil =>
      rw [List.intercalate_singleton] at h
      exact Or.inr ⟨w, List.mem_cons_self, h⟩
    | cons v vs =>
      rw [List.intercalate_cons_cons, List.append_assoc, List.mem_append, List.mem_append,
        List.mem_singleton] at h
      rcases h with h | h | h
      · exact Or.inr ⟨w, List.mem_cons_self, h⟩
      · exact Or.inl h
      · exact (ih h).imp_right fun ⟨u, hu, hc⟩ => ⟨u, List.mem_cons_of_mem _ hu, hc⟩

/-- Small words between separators are the words of the result. -/
theorem words_separated {separator : Char} (hseparator : isWordChar separator = false)
    (hascii : separator.toNat < 0x80) (text : List Char) :
    words (separated separator text) = (words text).map lower := by
  have hunbroken : ∀ w ∈ (words text).map lower, Unbroken w := by
    intro w hw
    obtain ⟨v, hv, rfl⟩ := List.mem_map.mp hw
    exact unbroken_lower hv
  rw [words_of_ascii, separated, wordsOf_intercalate hseparator hunbroken]
  intro c hc
  rcases mem_intercalate_singleton hc with rfl | ⟨w, hw, hcw⟩
  · exact hascii
  · exact toNat_lt_of_isWordChar ((hunbroken w hw).chars c hcw)

/-- **Names with separators.**  Splitting a name in snake case or in kebab case gives the words of
the text it was made from, in small letters.  So it can be written in every case as the text itself
can, and in its own case it stays what it is. -/
theorem separated_resplits (text : List Char) :
    words (snake text) = (words text).map lower ∧ words (kebab text) = (words text).map lower ∧
      (∀ c : Case, c.apply (snake text) = c.apply text ∧ c.apply (kebab text) = c.apply text) ∧
      snake (snake text) = snake text ∧ kebab (kebab text) = kebab text := by
  have hsnake : words (snake text) = (words text).map lower := words_separated rfl (by decide) text
  have hkebab : words (kebab text) = (words text).map lower := words_separated rfl (by decide) text
  have hlower : ((words text).map lower).map lower = (words text).map lower := by
    simp only [List.map_map, Function.comp_def, lower_lower]
  have hall : ∀ c : Case, c.apply (snake text) = c.apply text ∧
      c.apply (kebab text) = c.apply text := by
    intro c
    exact ⟨apply_congr (by rw [hsnake, hlower]) c, apply_congr (by rw [hkebab, hlower]) c⟩
  exact ⟨hsnake, hkebab, hall, (hall .snake).1, (hall .kebab).2⟩

/-! ## Words without separators -/

/-- Words that are joined without separators are found again if every word but the first begins with
a capital and none ends with one. -/
theorem wordsOf_flatten {ws : List (List Char)} (hunbroken : ∀ w ∈ ws, Unbroken w)
    (hlast : ∀ w ∈ ws, ∀ x ∈ w.getLast?, x.isUpper = false)
    (hfirst : ∀ w ∈ ws.tail, ∀ y ∈ w.head?, y.isUpper = true) : wordsOf ws.flatten = ws := by
  induction ws with
  | nil => rfl
  | cons w ws ih =>
    rw [List.forall_mem_cons] at hunbroken hlast
    have hrest : wordsOf ws.flatten = ws :=
      ih hunbroken.2 hlast.2 fun v hv => hfirst v (List.mem_of_mem_tail hv)
    rw [List.flatten_cons, hunbroken.1.wordsOf_append, hrest]
    intro x hx y after heq _
    cases ws with
    | nil => cases heq
    | cons v vs =>
      cases v with
      | nil => exact absurd rfl (hunbroken.2 [] List.mem_cons_self).nonempty
      | cons z zs =>
        obtain ⟨rfl, -⟩ := List.cons.inj heq
        have hcapital : z.isUpper = true := hfirst (z :: zs) List.mem_cons_self z rfl
        rw [startsWord, hcapital, hlast.1 x hx]
        rfl

/-- A text whose words are seen without separators: each has two characters or more, and each but
the first begins with a letter. -/
structure Joinable (text : List Char) : Prop where
  long : ∀ w ∈ words text, 2 ≤ w.length
  letters : ∀ w ∈ (words text).tail, ∀ c ∈ w.head?, c.isAlpha = true

namespace Joinable

variable {text : List Char}

/-- The last character of a word of two or more is not its first one, which alone may be a
capital. -/
theorem isUpper_getLast?_of_length {w : List Char} (hunbroken : Unbroken w) (hlong : 2 ≤ w.length) :
    ∀ x ∈ w.getLast?, x.isUpper = false := by
  match w with
  | [] => exact absurd rfl hunbroken.nonempty
  | [c] => exact absurd hlong (by simp)
  | c :: d :: ds =>
    intro x hx
    rw [List.getLast?_cons_cons] at hx
    exact hunbroken.small x (List.mem_of_getLast? hx)

theorem length_capitalize (w : List Char) : (capitalize w).length = w.length := by
  cases w with
  | nil => rfl
  | cons c cs => rw [capitalize, List.length_cons, List.length_map, List.length_cons]

/-- A capitalized word that begins with a letter begins with a capital. -/
theorem isUpper_head?_capitalize {w : List Char} (h : ∀ c ∈ w.head?, c.isAlpha = true) :
    ∀ y ∈ (capitalize w).head?, y.isUpper = true := by
  cases w with
  | nil => exact fun y hy => nomatch hy
  | cons c cs =>
    intro y hy
    obtain rfl := Option.some.inj hy
    rw [Char.isUpper_toUpper_eq_isAlpha]
    exact h c rfl

/-- Words in a case each, the first one in whatever case does not break it and all others
capitalized, are the words of the text they make. -/
theorem words_flatten (h : Joinable text) {first : List Char → List Char}
    (hunbroken : ∀ w ∈ words text, Unbroken (first w))
    (hlength : ∀ w, (first w).length = w.length) {w : List Char} {ws : List (List Char)}
    (hwords : words text = w :: ws) :
    words (first w :: ws.map capitalize).flatten = first w :: ws.map capitalize := by
  have hall : ∀ v ∈ first w :: ws.map capitalize, Unbroken v ∧ 2 ≤ v.length := by
    rw [List.forall_mem_cons, List.forall_mem_map]
    have hw : w ∈ words text := by rw [hwords]; exact List.mem_cons_self
    refine ⟨⟨hunbroken w hw, (hlength w).symm ▸ h.long w hw⟩, fun v hv => ?_⟩
    have hmem : v ∈ words text := by rw [hwords]; exact List.mem_cons_of_mem _ hv
    exact ⟨unbroken_capitalize hmem, (length_capitalize v).symm ▸ h.long v hmem⟩
  rw [words_of_ascii]
  · refine wordsOf_flatten (fun v hv => (hall v hv).1)
      (fun v hv => isUpper_getLast?_of_length (hall v hv).1 (hall v hv).2) ?_
    rw [List.tail_cons, List.forall_mem_map]
    intro v hv
    refine isUpper_head?_capitalize (h.letters v ?_)
    rw [hwords]
    exact hv
  · intro c hc
    obtain ⟨v, hv, hcv⟩ := List.mem_flatten.mp hc
    exact toNat_lt_of_isWordChar ((hall v hv).1.chars c hcv)

theorem words_pascal (h : Joinable text) : words (pascal text) = (words text).map capitalize := by
  rw [pascal]
  cases hwords : words text with
  | nil => exact words_of_ascii (List.forall_mem_nil _)
  | cons w ws =>
    exact h.words_flatten (fun v hv => unbroken_capitalize hv) length_capitalize hwords

/-- In camel case the first word is written in small letters. -/
theorem camel_eq_flatten {w : List Char} {ws : List (List Char)} (hwords : words text = w :: ws) :
    camel text = (lower w :: ws.map capitalize).flatten := by
  have hw : w ∈ words text := by rw [hwords]; exact List.mem_cons_self
  cases w with
  | nil => exact absurd rfl (wordsOf_spec _ [] hw).1
  | cons c cs =>
    rw [camel, pascal, hwords, List.map_cons, List.flatten_cons, capitalize, List.cons_append,
      lowerFirst, Char.toLower_toUpper_eq_toLower]
    rfl

theorem lower_words_camel (h : Joinable text) :
    (words (camel text)).map lower = (words text).map lower := by
  cases hwords : words text with
  | nil =>
    rw [camel, pascal, hwords]
    exact congrArg (List.map lower) (words_of_ascii (List.forall_mem_nil _))
  | cons w ws =>
    rw [camel_eq_flatten hwords, h.words_flatten (fun v hv => unbroken_lower hv)
      (fun v => List.length_map _) hwords]
    simp only [List.map_cons, List.map_map, Function.comp_def, lower_lower, lower_capitalize]

end Joinable

/-- **Names without separators.**  If every word of a text has two characters or more and every word
but the first begins with a letter, then splitting the text in Pascal case gives the words
capitalized.  So writing it in Pascal case twice is writing it once, the text, its Pascal case and
its camel case are written alike in snake case, its camel case is written in Pascal case as the text
is, and two such texts are written alike in Pascal case only if they have the same words in small
letters. -/
theorem joined_resplits {text : List Char} (h : Joinable text) :
    words (pascal text) = (words text).map capitalize ∧
      pascal (pascal text) = pascal text ∧
      snake (pascal text) = snake text ∧ snake (camel text) = snake text ∧
      pascal (camel text) = pascal text ∧
      ∀ other, Joinable other → (words other).map lower ≠ (words text).map lower →
        pascal other ≠ pascal text := by
  have hlower : ∀ t, Joinable t → (words (pascal t)).map lower = (words t).map lower := by
    intro t ht
    rw [ht.words_pascal]
    simp only [List.map_map, Function.comp_def, lower_capitalize]
  refine ⟨h.words_pascal, apply_congr (hlower text h) .pascal, apply_congr (hlower text h) .snake,
    apply_congr h.lower_words_camel .snake, apply_congr h.lower_words_camel .pascal, ?_⟩
  intro other hother hne heq
  rw [← hlower other hother, heq, hlower text h] at hne
  exact hne rfl

/-- An acronym and a digit inside a word do no harm. -/
theorem parser_resplits :
    Joinable "parseXMLFile2".toList ∧
      words (pascal "parseXMLFile2".toList) =
        ["Parse".toList, "Xml".toList, "File2".toList] ∧
      pascal (camel "parseXMLFile2".toList) = "ParseXmlFile2".toList ∧
      Joinable "parse_xm_lfile2".toList ∧
      pascal "parse_xm_lfile2".toList ≠ pascal "parseXMLFile2".toList := by
  have hwords : words "parseXMLFile2".toList =
      ["parse".toList, "XML".toList, "File2".toList] := by
    cbv
  have hother : words "parse_xm_lfile2".toList =
      ["parse".toList, "xm".toList, "lfile2".toList] := by
    cbv
  have hjoinable : Joinable "parseXMLFile2".toList := by
    constructor
    · rw [hwords]
      decide
    · rw [hwords]
      simp
  have hjoinable' : Joinable "parse_xm_lfile2".toList := by
    constructor
    · rw [hother]
      decide
    · rw [hother]
      simp
  obtain ⟨hpascal, -, -, -, hcamel, hdifferent⟩ := joined_resplits hjoinable
  refine ⟨hjoinable, ?_, ?_, hjoinable', hdifferent _ hjoinable' ?_⟩
  · rw [hpascal, hwords]
    rfl
  · rw [hcamel, pascal, hwords]
    rfl
  · rw [hwords, hother]
    decide

end Name
end ApiCompiler
