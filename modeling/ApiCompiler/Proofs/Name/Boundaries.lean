import ApiCompiler.Proofs.Name.Words
import ApiCompiler.Proofs.Text.Accents

/-!
# Where words end

Splitting a text into words loses none of its letters and digits, so all there is to say about it is
where the words end.  Two letters or digits that follow each other belong to different words if some
other character stands between them, or if the second one is a capital that follows no capital or
stands before a small letter.

The runs of a text and the words of a run are found one after the other, and a word ends in a run
where the characters around it say so.  `EndsWord` puts the two together: it reads the characters
that stand around in the text.  `wordsOf_cons` is the recursion of splitting in these terms, one
character at a time, and `words_exact` follows from it by induction on what stands before the first
of the two characters.

Blank space around a text makes no difference (`words_strip`).
-/

namespace ApiCompiler
namespace Name

/-- The words of a text that has no accents. -/
def wordsOf (cs : List Char) : List (List Char) := (runs cs).flatMap splitRun

theorem words_eq (text : List Char) : words text = wordsOf (Text.stripAccents text) := rfl

/-! ## Runs -/

theorem runs_cons_of_not {c : Char} (h : isWordChar c = false) (cs : List Char) :
    runs (c :: cs) = runs cs := by
  rw [runs.eq_def]
  simp only [h, Bool.false_eq_true, if_false]

/-- A word character begins a run that goes on as long as there are word characters. -/
theorem runs_cons {c : Char} (h : isWordChar c = true) (cs : List Char) :
    runs (c :: cs) = (c :: cs.takeWhile isWordChar) :: runs (cs.dropWhile isWordChar) := by
  induction cs generalizing c with
  | nil =>
    rw [runs.eq_def]
    simp only [h, if_true]
    rfl
  | cons d ds ih =>
    rw [runs.eq_def]
    simp only [h, if_true]
    cases hd : isWordChar d with
    | true => simp only [ih hd, hd, if_true, List.takeWhile_cons, List.dropWhile_cons]
    | false =>
      simp only [hd, Bool.false_eq_true, if_false, List.takeWhile_cons, List.dropWhile_cons]
      cases runs (d :: ds) with
      | nil => rfl
      | cons first rest => simp only [hd, Bool.false_eq_true, if_false]

/-! ## The end of a word -/

/-- A word ends at `x` before the rest of a text: what follows is no word character, or it begins a
word after `x`. -/
def EndsWord (x : Char) (rest : List Char) : Prop :=
  ∀ y after, rest = y :: after → isWordChar y = true → startsWord x y after = true

theorem isWordChar_of_isLower {c : Char} (h : c.isLower = true) : isWordChar c = true := by
  rw [isWordChar, Char.isAlphanum, Char.isAlpha, h, Bool.or_true, Bool.true_or]

/-- Whether a word starts depends on one more character, and what ends the run is no small
letter. -/
theorem startsWord_takeWhile (x y : Char) (after : List Char) :
    startsWord x y (after.takeWhile isWordChar) = startsWord x y after := by
  cases after with
  | nil => rfl
  | cons z after =>
    cases hz : isWordChar z with
    | true =>
      rw [List.takeWhile_cons_of_pos hz, startsWord, startsWord, List.head?_cons, List.head?_cons]
    | false =>
      have hlower : z.isLower = false := by
        rw [← Bool.not_eq_true]
        exact fun h => Bool.false_ne_true (hz.symm.trans (isWordChar_of_isLower h))
      rw [List.takeWhile_cons_of_neg (by simp [hz]), startsWord, startsWord]
      simp [hlower]

/-- The words of a run of two characters or more: the first of them is a word of its own, or the
first character of the word in which the second one stands. -/
theorem splitRun_cons_cons (c d : Char) (tail : List Char) :
    ∃ w ws, splitRun (d :: tail) = w :: ws ∧ w ≠ [] ∧
      splitRun (c :: d :: tail) =
        if startsWord c d tail then [c] :: w :: ws else (c :: w) :: ws := by
  refine ⟨d :: (splitAfter d tail).1, (splitAfter d tail).2, rfl, List.cons_ne_nil _ _, ?_⟩
  simp only [splitRun, splitAfter]
  split <;> rfl

theorem wordsOf_cons_of_not {c : Char} (h : isWordChar c = false) (cs : List Char) :
    wordsOf (c :: cs) = wordsOf cs := by
  rw [wordsOf, runs_cons_of_not h, wordsOf]

/-- A word character is a word of its own if a word ends at it, and else the first character of the
first word of what follows. -/
theorem wordsOf_cons {c : Char} (h : isWordChar c = true) (rest : List Char) :
    EndsWord c rest ∧ wordsOf (c :: rest) = [c] :: wordsOf rest ∨
      ¬ EndsWord c rest ∧ ∃ w ws, wordsOf rest = w :: ws ∧ w ≠ [] ∧
        wordsOf (c :: rest) = (c :: w) :: ws := by
  have hrun : wordsOf (c :: rest) =
      splitRun (c :: rest.takeWhile isWordChar) ++ wordsOf (rest.dropWhile isWordChar) := by
    rw [wordsOf, runs_cons h, List.flatMap_cons, wordsOf]
  cases rest with
  | nil => exact Or.inl ⟨fun y after heq => (nomatch heq), hrun⟩
  | cons d after =>
    cases hd : isWordChar d with
    | false =>
      refine Or.inl ⟨fun y after' heq hy => ?_, ?_⟩
      · obtain ⟨rfl, rfl⟩ := List.cons.inj heq
        exact absurd (hd.symm.trans hy) Bool.false_ne_true
      · rw [hrun, List.takeWhile_cons_of_neg (by simp [hd]),
          List.dropWhile_cons_of_neg (by simp [hd])]
        rfl
    | true =>
      obtain ⟨w, ws, hsplit, hw, hstep⟩ := splitRun_cons_cons c d (after.takeWhile isWordChar)
      have hnext : wordsOf (d :: after) =
          (w :: ws) ++ wordsOf (after.dropWhile isWordChar) := by
        rw [wordsOf, runs_cons hd, List.flatMap_cons, hsplit, wordsOf]
      have hends : EndsWord c (d :: after) ↔ startsWord c d after = true := by
        constructor
        · exact fun h => h d after rfl hd
        · intro h y after' heq _
          obtain ⟨rfl, rfl⟩ := List.cons.inj heq
          exact h
      rw [List.takeWhile_cons_of_pos hd, List.dropWhile_cons_of_pos hd, hstep,
        startsWord_takeWhile] at hrun
      rw [hends, hrun, hnext]
      split
      · case isTrue hstart => exact Or.inl ⟨hstart, rfl⟩
      · case isFalse hstart => exact Or.inr ⟨hstart, _, _, rfl, hw, rfl⟩

/-- Words hold word characters, and at least one of them. -/
theorem wordsOf_spec (cs : List Char) :
    ∀ w ∈ wordsOf cs, w ≠ [] ∧ ∀ c ∈ w, isWordChar c = true := by
  induction cs with
  | nil => exact List.forall_mem_nil _
  | cons c cs ih =>
    cases hc : isWordChar c with
    | false =>
      rw [wordsOf_cons_of_not hc]
      exact ih
    | true =>
      rcases wordsOf_cons hc cs with ⟨-, heq⟩ | ⟨-, w, ws, hwords, -, heq⟩
      · rw [heq, List.forall_mem_cons]
        exact ⟨⟨List.cons_ne_nil _ _, List.forall_mem_singleton.mpr hc⟩, ih⟩
      · rw [hwords, List.forall_mem_cons] at ih
        rw [heq, List.forall_mem_cons]
        exact ⟨⟨List.cons_ne_nil _ _, List.forall_mem_cons.mpr ⟨hc, ih.1.2⟩⟩, ih.2⟩

/-! ## Breaks between words -/

/-- There is a break between words behind some characters: these are the characters of the first
words. -/
def BreaksAfter (ws : List (List Char)) (front : List Char) : Prop :=
  ∃ before after, ws = before ++ after ∧ before.flatten = front

/-- One more character in front, as a word of its own or in the first word, does not move a break
that has characters before it. -/
theorem breaksAfter_cons_word {ws : List (List Char)} {c : Char} {front : List Char} :
    BreaksAfter ([c] :: ws) (c :: front) ↔ BreaksAfter ws front := by
  constructor
  · rintro ⟨before, after, heq, hflat⟩
    cases before with
    | nil => cases hflat
    | cons v before =>
      obtain ⟨rfl, rfl⟩ := List.cons.inj heq
      exact ⟨before, after, rfl, (List.cons.inj hflat).2⟩
  · rintro ⟨before, after, rfl, rfl⟩
    exact ⟨[c] :: before, after, rfl, rfl⟩

theorem breaksAfter_cons_char {w : List Char} {ws : List (List Char)} {c : Char}
    {front : List Char} (h : front ≠ []) :
    BreaksAfter ((c :: w) :: ws) (c :: front) ↔ BreaksAfter (w :: ws) front := by
  constructor
  · rintro ⟨before, after, heq, hflat⟩
    cases before with
    | nil => cases hflat
    | cons v before =>
      obtain ⟨rfl, rfl⟩ := List.cons.inj heq
      exact ⟨w :: before, after, rfl, (List.cons.inj hflat).2⟩
  · rintro ⟨before, after, heq, rfl⟩
    cases before with
    | nil => exact absurd rfl h
    | cons v before =>
      obtain ⟨rfl, rfl⟩ := List.cons.inj heq
      exact ⟨(c :: w) :: before, after, rfl, rfl⟩

/-- Words break behind their first character exactly if it is the first word. -/
theorem not_breaksAfter_singleton {w : List Char} {ws : List (List Char)} {c : Char}
    (hw : w ≠ []) : ¬ BreaksAfter ((c :: w) :: ws) [c] := by
  rintro ⟨before, after, heq, hflat⟩
  cases before with
  | nil => cases hflat
  | cons v before =>
    obtain ⟨rfl, rfl⟩ := List.cons.inj heq
    exact hw (List.append_eq_nil_iff.mp (List.cons.inj hflat).2).1

/-- The words of a text break behind a word character exactly if a word ends at it. -/
theorem breaksAfter_wordsOf (front : List Char) {x : Char} (hx : isWordChar x = true)
    (rest : List Char) :
    BreaksAfter (wordsOf (front ++ x :: rest)) ((front ++ [x]).filter isWordChar) ↔
      EndsWord x rest := by
  induction front with
  | nil =>
    rw [List.nil_append, List.nil_append, List.filter_cons_of_pos hx, List.filter_nil]
    rcases wordsOf_cons hx rest with ⟨hends, heq⟩ | ⟨hends, w, ws, -, hw, heq⟩
    · rw [heq]
      exact iff_of_true ⟨[[x]], wordsOf rest, rfl, rfl⟩ hends
    · rw [heq]
      exact iff_of_false (not_breaksAfter_singleton hw) hends
  | cons c front ih =>
    rw [List.cons_append, List.cons_append]
    cases hc : isWordChar c with
    | false => rw [wordsOf_cons_of_not hc, List.filter_cons_of_neg (by simp [hc]), ih]
    | true =>
      rw [List.filter_cons_of_pos hc]
      rcases wordsOf_cons hc (front ++ x :: rest) with ⟨-, heq⟩ | ⟨-, w, ws, hwords, -, heq⟩
      · rw [heq, breaksAfter_cons_word, ih]
      · have hne : (front ++ [x]).filter isWordChar ≠ [] :=
          List.ne_nil_of_mem (List.mem_filter.mpr ⟨by simp, hx⟩)
        rw [heq, breaksAfter_cons_char hne, ← hwords, ih]

/-- Whether a word ends at a word character is read off the next one: what stands between the two,
and the character right behind the second one. -/
theorem endsWord_iff {x y : Char} {gap rest : List Char} (hy : isWordChar y = true)
    (hgap : ∀ c ∈ gap, isWordChar c = false) :
    EndsWord x (gap ++ y :: rest) ↔
      gap ≠ [] ∨ y.isUpper = true ∧ (x.isUpper = false ∨ ∃ z ∈ rest.head?, z.isLower = true) := by
  cases gap with
  | nil =>
    have hends : EndsWord x (y :: rest) ↔ startsWord x y rest = true := by
      constructor
      · exact fun h => h y rest rfl hy
      · intro h z after heq _
        obtain ⟨rfl, rfl⟩ := List.cons.inj heq
        exact h
    rw [List.nil_append, hends, startsWord]
    cases rest <;> simp
  | cons c gap =>
    refine iff_of_true (fun z after heq hz => ?_) (Or.inl (List.cons_ne_nil _ _))
    obtain ⟨rfl, -⟩ := List.cons.inj heq
    exact absurd ((hgap c List.mem_cons_self).symm.trans hz) Bool.false_ne_true

/-! ## Separators -/

/-- No run goes on across a character that is no word character. -/
theorem runs_append {c : Char} (h : isWordChar c = false) (as bs : List Char) :
    runs (as ++ c :: bs) = runs as ++ runs bs := by
  induction as with
  | nil => exact runs_cons_of_not h bs
  | cons a as ih =>
    rw [List.cons_append]
    cases ha : isWordChar a with
    | false => rw [runs_cons_of_not ha, runs_cons_of_not ha, ih]
    | true =>
      rw [runs_cons ha, runs_cons ha]
      cases as with
      | nil =>
        rw [List.nil_append, List.takeWhile_cons_of_neg (by simp [h]),
          List.dropWhile_cons_of_neg (by simp [h]), runs_cons_of_not h]
        rfl
      | cons d as =>
        rw [List.cons_append] at ih ⊢
        cases hd : isWordChar d with
        | false =>
          have hneg : ¬ isWordChar d = true := by simp [hd]
          rw [List.takeWhile_cons_of_neg hneg, List.dropWhile_cons_of_neg hneg,
            List.takeWhile_cons_of_neg hneg, List.dropWhile_cons_of_neg hneg, ih,
            List.cons_append]
        | true =>
          rw [runs_cons hd, runs_cons hd, List.cons_append] at ih
          obtain ⟨hfirst, hrest⟩ := List.cons.inj ih
          rw [List.takeWhile_cons_of_pos hd, List.dropWhile_cons_of_pos hd,
            List.takeWhile_cons_of_pos hd, List.dropWhile_cons_of_pos hd, hfirst, hrest,
            List.cons_append]

theorem wordsOf_append {c : Char} (h : isWordChar c = false) (as bs : List Char) :
    wordsOf (as ++ c :: bs) = wordsOf as ++ wordsOf bs := by
  rw [wordsOf, runs_append h, List.flatMap_append, wordsOf, wordsOf]

theorem isWordChar_of_isSpace {c : Char} (h : Text.isSpace c = true) : isWordChar c = false := by
  rw [Text.isSpace_iff] at h
  simp only [isWordChar, Char.isAlphanum, Char.isAlpha, Char.isUpper, Char.isLower, Char.isDigit,
    UInt32.le_iff_toNat_le, Bool.or_eq_false_iff, Bool.and_eq_false_iff, decide_eq_false_iff_not,
    Char.reduceVal, UInt32.reduceToNat, Char.toNat_val]
  omega

/-- White space separates words, as any other separator does. -/
theorem words_append {c : Char} (h : Text.isSpace c = true) (as bs : List Char) :
    words (as ++ c :: bs) = words as ++ words bs := by
  rw [words_eq, Text.stripAccents_append h,
    wordsOf_append (isWordChar_of_isSpace (Text.isSpace_plainSpace h)), words_eq, words_eq]

theorem words_cons_space {c : Char} (h : Text.isSpace c = true) (cs : List Char) :
    words (c :: cs) = words cs := words_append h [] cs

theorem words_append_singleton_space {c : Char} (h : Text.isSpace c = true) (cs : List Char) :
    words (cs ++ [c]) = words cs := by
  rw [words_append h]
  exact List.append_nil _

/-- Blank space around a text makes no difference. -/
theorem words_strip (text : List Char) : words (Text.strip text) = words text := by
  have hfront : ∀ cs : List Char, words (cs.dropWhile Text.isSpace) = words cs := by
    intro cs
    induction cs with
    | nil => rfl
    | cons c cs ih =>
      cases hc : Text.isSpace c with
      | true => rw [List.dropWhile_cons_of_pos hc, ih, words_cons_space hc]
      | false => rw [List.dropWhile_cons_of_neg (by simp [hc])]
  have hback : ∀ cs : List Char,
      words (cs.reverse.dropWhile Text.isSpace).reverse = words cs := by
    intro cs
    induction cs using List.reverseRecOn with
    | nil => rfl
    | append_singleton cs c ih =>
      rw [List.reverse_append, List.reverse_singleton, List.singleton_append]
      cases hc : Text.isSpace c with
      | true => rw [List.dropWhile_cons_of_pos hc, ih, words_append_singleton_space hc]
      | false =>
        rw [List.dropWhile_cons_of_neg (by simp [hc]), List.reverse_cons,
          List.reverse_reverse]
  rw [Text.strip, hback, hfront]

/-- **Word boundaries.**  The words of a text are not empty, and joined they are the letters and
digits of the text without accents, in order.  Between two of these letters and digits that follow
each other there is a break between words exactly if some other character stands between them, or
the second one is a capital and either the first one is none or a small letter stands right behind
the second one. -/
theorem words_exact (text : List Char) :
    (∀ w ∈ words text, w ≠ [] ∧ ∀ c ∈ w, isWordChar c = true) ∧
    (words text).flatten = (Text.stripAccents text).filter isWordChar ∧
    (∀ front x gap y rest, Text.stripAccents text = front ++ x :: (gap ++ y :: rest) →
      isWordChar x = true → isWordChar y = true → (∀ c ∈ gap, isWordChar c = false) →
      ((∃ before after, words text = before ++ after ∧
          before.flatten = (front ++ [x]).filter isWordChar ∧
          after.flatten = (y :: rest).filter isWordChar) ↔
        gap ≠ [] ∨
          y.isUpper = true ∧ (x.isUpper = false ∨ ∃ z ∈ rest.head?, z.isLower = true))) ∧
    words (Text.strip text) = words text := by
  refine ⟨wordsOf_spec _, flatten_words text, fun front x gap y rest htext hx hy hgap => ?_,
    words_strip text⟩
  rw [← endsWord_iff hy hgap, ← breaksAfter_wordsOf front hx, ← htext, ← words_eq]
  constructor
  · rintro ⟨before, after, heq, hbefore, -⟩
    exact ⟨before, after, heq, hbefore⟩
  · rintro ⟨before, after, heq, hbefore⟩
    refine ⟨before, after, heq, hbefore, ?_⟩
    -- what is not in the first words is in the others
    have hnone : gap.filter isWordChar = [] :=
      List.filter_eq_nil_iff.mpr fun c hc => by simp [hgap c hc]
    have hall : before.flatten ++ after.flatten =
        (front ++ [x]).filter isWordChar ++ (y :: rest).filter isWordChar := by
      rw [← List.flatten_append, ← heq, flatten_words, htext, List.append_cons, List.filter_append]
      simp only [List.filter_append, hnone, List.nil_append]
    rw [hbefore] at hall
    exact List.append_cancel_left hall

/-- An acronym ends before the capital of the word that follows it, though no separator stands
there. -/
theorem acronym_ends :
    Text.stripAccents "XMLHttp".toList = ['X', 'M'] ++ 'L' :: ([] ++ 'H' :: ['t', 't', 'p']) ∧
      isWordChar 'L' = true ∧ isWordChar 'H' = true ∧
      (∀ c ∈ ([] : List Char), isWordChar c = false) ∧
      ∃ before after, words "XMLHttp".toList = before ++ after ∧
        before.flatten = ['X', 'M', 'L'] ∧ after.flatten = ['H', 't', 't', 'p'] := by
  have htext : Text.stripAccents "XMLHttp".toList =
      ['X', 'M'] ++ 'L' :: ([] ++ 'H' :: ['t', 't', 'p']) := by
    cbv
  refine ⟨htext, rfl, rfl, List.forall_mem_nil _, ?_⟩
  obtain ⟨-, -, hbreaks, -⟩ := words_exact "XMLHttp".toList
  exact (hbreaks _ _ _ _ _ htext rfl rfl (List.forall_mem_nil _)).mpr
    (Or.inr ⟨rfl, Or.inr ⟨'t', rfl, rfl⟩⟩)

end Name
end ApiCompiler
