import ApiCompiler.Proofs.Maps
import ApiCompiler.Proofs.Outcomes
import ApiCompiler.Proofs.Value.Keys

/-!
# Entries in the order of their keys

`sortEntries` is a binary insertion sort whose comparisons can fail.  Where it succeeds, its result
has the same entries and they rise (`sortEntries_perm`, `rising_sortEntries`).  Where it fails, it
has met two keys of the entries that cannot be compared (`sortEntries_fails`).

Which comparison fails first depends on the order of the entries, but whether one fails does not.
Nor does the result: distinct keys that can all be compared have one order only.  So the same map in
another order is sorted to corresponding entries, or fails to be sorted too
(`sortEntries_endsAlike`).
-/

namespace ApiCompiler
namespace Value

open Value.Scalar
open Breakdown (SameKind)

variable {α β : Type} {R : α → β → Prop} {es run rest : List (Scalar × α)} {e : Scalar × α}

/-- No two entries have the same key. -/
def Distinct (es : List (Scalar × α)) : Prop := es.Pairwise fun e f => e.1.like f.1 = false

theorem Distinct.perm {es' : List (Scalar × α)} (h : Distinct es) (hperm : es.Perm es') :
    Distinct es' := by
  refine (List.Perm.pairwise_iff (fun h => ?_) hperm).mp h
  rwa [like_comm]

/-- Every entry comes before those after it. -/
def Rising (es : List (Scalar × α)) : Prop := es.Pairwise fun e f => e.1.Precedes f.1

/-! ## The run at the beginning -/

/-- Whether a key goes on in the direction of a run that has come to another key. -/
def GoesOn (falling : Bool) (next last : Scalar) : Prop :=
  if falling then next.Precedes last else last.Precedes next

theorem GoesOn.trans {falling : Bool} {a b c : Scalar} (hab : GoesOn falling a b)
    (hbc : GoesOn falling b c) : GoesOn falling a c := by
  cases falling with
  | true => exact Precedes.trans hab hbc
  | false => exact Precedes.trans hbc hab

theorem goesOn_of_before {falling : Bool} {next last : Scalar}
    (h : next.before last = .ok falling) (hne : next.like last = false) :
    GoesOn falling next last := by
  cases falling with
  | true => exact h
  | false => exact precedes_of_before h hne

theorem runFrom_perm {falling : Bool} {last : Scalar} {run' : List (Scalar × α)}
    (h : runFrom falling run last es = .ok (run', rest)) : (run' ++ rest).Perm (run ++ es) := by
  induction es generalizing run last with
  | nil =>
    cases h
    exact List.Perm.refl _
  | cons e es ih =>
    rw [runFrom, bind_eq_ok] at h
    obtain ⟨r, -, h⟩ := h
    split at h
    · exact (ih h).trans List.perm_middle.symm
    · cases h
      exact List.Perm.refl _

theorem pairwise_runFrom {falling : Bool} {run' : List (Scalar × α)} (hd : Distinct (e :: run ++ es))
    (hrun : (e :: run).Pairwise fun x y => GoesOn falling x.1 y.1)
    (h : runFrom falling (e :: run) e.1 es = .ok (run', rest)) :
    run'.Pairwise fun x y => GoesOn falling x.1 y.1 := by
  induction es generalizing e run with
  | nil =>
    cases h
    exact hrun
  | cons f es ih =>
    rw [runFrom, bind_eq_ok] at h
    obtain ⟨r, hr, h⟩ := h
    split at h
    · case isTrue hfalling =>
      subst hfalling
      have hd' : Distinct (f :: (e :: run) ++ es) := hd.perm List.perm_middle
      have hfe : GoesOn r f.1 e.1 := goesOn_of_before hr (List.rel_of_pairwise_cons hd' (by simp))
      refine ih hd' (List.pairwise_cons.mpr ⟨fun x hx => ?_, hrun⟩) h
      rcases List.mem_cons.mp hx with rfl | hx
      · exact hfe
      · exact hfe.trans (List.rel_of_pairwise_cons hrun hx)
    · cases h
      exact hrun

theorem firstRun_perm (h : firstRun es = .ok (run, rest)) : (run ++ rest).Perm es := by
  unfold firstRun at h
  split at h
  · cases h
    exact List.Perm.refl _
  · cases h
    exact List.Perm.refl _
  · rw [bind_eq_ok] at h
    obtain ⟨falling, -, h⟩ := h
    rw [bind_eq_ok] at h
    obtain ⟨⟨run', rest'⟩, hrun, h⟩ := h
    cases h
    have hperm := (runFrom_perm hrun).trans (List.Perm.swap _ _ _)
    split
    · exact hperm
    · exact ((List.reverse_perm run').append_right _).trans hperm

/-- The run at the beginning rises, whatever its direction. -/
theorem rising_firstRun (hd : Distinct es) (h : firstRun es = .ok (run, rest)) : Rising run := by
  unfold firstRun at h
  split at h
  · cases h
    exact List.Pairwise.nil
  · cases h
    exact List.pairwise_singleton _ _
  · case h_3 e f es =>
    rw [bind_eq_ok] at h
    obtain ⟨falling, hfalling, h⟩ := h
    rw [bind_eq_ok] at h
    obtain ⟨⟨run', rest'⟩, hrun, h⟩ := h
    cases h
    have hd' : Distinct (f :: [e] ++ es) := hd.perm (List.Perm.swap _ _ _)
    have hfe : GoesOn falling f.1 e.1 :=
      goesOn_of_before hfalling (List.rel_of_pairwise_cons hd' (by simp))
    have hpair := pairwise_runFrom hd' (List.pairwise_pair.mpr hfe) hrun
    cases falling with
    | true => exact hpair
    | false => exact List.pairwise_reverse.mpr hpair

/-! ## Insertion -/

theorem Rising.before (h : Rising (run ++ e :: rest)) : ∀ x ∈ run, x.1.Precedes e.1 := by
  intro x hx
  exact (List.pairwise_append.mp h).2.2 x hx e List.mem_cons_self

theorem Rising.after (h : Rising (run ++ e :: rest)) : ∀ x ∈ rest, e.1.Precedes x.1 := by
  intro x hx
  exact List.rel_of_pairwise_cons (List.pairwise_append.mp h).2.1 hx

/-- The place of a key is after the entries that come before it, and before all others. -/
theorem placeBetween_spec {key : Scalar} {sorted : List (Scalar × α)} (hsorted : Rising sorted)
    (hnew : ∀ x ∈ sorted, key.like x.1 = false) {low high place : Nat} (hle : low ≤ high)
    (hhigh : high ≤ sorted.length) (hbelow : ∀ x ∈ sorted.take low, x.1.Precedes key)
    (habove : ∀ x ∈ sorted.drop high, key.Precedes x.1)
    (h : placeBetween key sorted.toArray low high = .ok place) :
    (∀ x ∈ sorted.take place, x.1.Precedes key) ∧ ∀ x ∈ sorted.drop place, key.Precedes x.1 := by
  induction low, high using placeBetween.induct sorted.toArray with
  | case1 low high hlt middle hnone =>
    have hmiddle : middle < sorted.length := by omega
    rw [List.getElem?_toArray, List.getElem?_eq_getElem hmiddle] at hnone
    cases hnone
  | case2 low high hlt middle e hsome ih1 ih2 =>
    rw [List.getElem?_toArray] at hsome
    obtain ⟨hmiddle, he⟩ := List.getElem?_eq_some_iff.mp hsome
    have hdrop : sorted.drop middle = e :: sorted.drop (middle + 1) := by
      rw [List.drop_eq_getElem_cons hmiddle, he]
    have htake : sorted.take (middle + 1) = sorted.take middle ++ [e] := by
      rw [List.take_add_one, hsome]
      rfl
    have hsplit : Rising (sorted.take middle ++ e :: sorted.drop (middle + 1)) := by
      rwa [← hdrop, List.take_append_drop]
    have hmem : e ∈ sorted := List.mem_of_getElem? hsome
    rw [placeBetween, dif_pos hlt] at h
    dsimp only at h
    rw [List.getElem?_toArray, hsome] at h
    dsimp only at h
    rw [bind_eq_ok] at h
    obtain ⟨before, hbefore, h⟩ := h
    cases before with
    | true =>
      refine ih1 (by omega) (by omega) hbelow (fun x hx => ?_) h
      rw [hdrop] at hx
      rcases List.mem_cons.mp hx with rfl | hx
      · exact hbefore
      · exact Precedes.trans hbefore (hsplit.after x hx)
    | false =>
      have hkey : e.1.Precedes key := precedes_of_before hbefore (hnew e hmem)
      refine ih2 (by omega) hhigh (fun x hx => ?_) habove h
      rw [htake] at hx
      rcases List.mem_append.mp hx with hx | hx
      · exact (hsplit.before x hx).trans hkey
      · rwa [List.mem_singleton.mp hx]
  | case3 low high hlt =>
    rw [placeBetween, dif_neg hlt] at h
    cases h
    obtain rfl : place = high := by omega
    exact ⟨hbelow, habove⟩

/-- Entries around the place of a new one. -/
theorem insert_perm (sorted : List (Scalar × α)) (e : Scalar × α) (place : Nat) :
    (sorted.take place ++ e :: sorted.drop place).Perm (e :: sorted) := by
  have hmiddle : (sorted.take place ++ e :: sorted.drop place).Perm
      (e :: (sorted.take place ++ sorted.drop place)) := List.perm_middle
  rwa [List.take_append_drop] at hmiddle

theorem insertAll_perm {sorted sorted' : List (Scalar × α)}
    (h : insertAll sorted es = .ok sorted') : sorted'.Perm (sorted ++ es) := by
  induction es generalizing sorted with
  | nil =>
    cases h
    rw [List.append_nil]
  | cons e es ih =>
    rw [insertAll, bind_eq_ok] at h
    obtain ⟨place, -, h⟩ := h
    exact (ih h).trans (((insert_perm sorted e place).append_right es).trans List.perm_middle.symm)

theorem rising_insertAll {sorted sorted' : List (Scalar × α)} (hd : Distinct (sorted ++ es))
    (hsorted : Rising sorted) (h : insertAll sorted es = .ok sorted') : Rising sorted' := by
  induction es generalizing sorted with
  | nil =>
    cases h
    exact hsorted
  | cons e es ih =>
    rw [insertAll, bind_eq_ok] at h
    obtain ⟨place, hplace, h⟩ := h
    have hnew : ∀ x ∈ sorted, e.1.like x.1 = false := by
      intro x hx
      rw [like_comm]
      exact (List.pairwise_append.mp hd).2.2 x hx e List.mem_cons_self
    obtain ⟨hbelow, habove⟩ := placeBetween_spec hsorted hnew (Nat.zero_le _) (Nat.le_refl _)
      (by simp) (by simp) hplace
    refine ih ?_ ?_ h
    · have hperm : (sorted ++ e :: es).Perm (sorted.take place ++ e :: sorted.drop place ++ es) :=
        List.perm_middle.trans ((insert_perm sorted e place).append_right es).symm
      exact hd.perm hperm
    · have hparts : Rising (sorted.take place ++ sorted.drop place) := by
        rwa [List.take_append_drop]
      obtain ⟨htake, hdrop, hacross⟩ := List.pairwise_append.mp hparts
      refine List.pairwise_append.mpr ⟨htake, List.pairwise_cons.mpr ⟨habove, hdrop⟩, ?_⟩
      intro x hx y hy
      rcases List.mem_cons.mp hy with rfl | hy
      · exact hbelow x hx
      · exact hacross x hx y hy

/-! ## Sorted entries -/

/-- Sorting loses no entry and adds none. -/
theorem sortEntries_perm {sorted : List (Scalar × α)} (h : sortEntries es = .ok sorted) :
    sorted.Perm es := by
  rw [sortEntries, bind_eq_ok] at h
  obtain ⟨⟨run, rest⟩, hrun, h⟩ := h
  exact (insertAll_perm h).trans (firstRun_perm hrun)

theorem rising_sortEntries {sorted : List (Scalar × α)} (hd : Distinct es)
    (h : sortEntries es = .ok sorted) : Rising sorted := by
  rw [sortEntries, bind_eq_ok] at h
  obtain ⟨⟨run, rest⟩, hrun, h⟩ := h
  exact rising_insertAll (hd.perm (firstRun_perm hrun).symm) (rising_firstRun hd hrun) h

/-! ## Failure -/

variable {P : Scalar → Prop} {reason : Breakdown}

/-- A comparison of two keys of which `P` holds fails. -/
def SomeFails (P : Scalar → Prop) (reason : Breakdown) : Prop :=
  ∃ a b, P a ∧ P b ∧ a.before b = .error reason

theorem runFrom_fails {falling : Bool} {last : Scalar} (hlast : P last) (hes : ∀ e ∈ es, P e.1)
    (h : runFrom falling run last es = .error reason) : SomeFails P reason := by
  induction es generalizing run last with
  | nil => cases h
  | cons e es ih =>
    rw [List.forall_mem_cons] at hes
    rw [runFrom, bind_eq_error] at h
    rcases h with h | ⟨r, -, h⟩
    · exact ⟨e.1, last, hes.1, hlast, h⟩
    · split at h
      · exact ih hes.1 hes.2 h
      · cases h

theorem firstRun_fails (hes : ∀ e ∈ es, P e.1) (h : firstRun es = .error reason) :
    SomeFails P reason := by
  unfold firstRun at h
  split at h
  · cases h
  · cases h
  · rw [List.forall_mem_cons, List.forall_mem_cons] at hes
    obtain ⟨he, hf, hes⟩ := hes
    rw [bind_eq_error] at h
    rcases h with h | ⟨falling, -, h⟩
    · exact ⟨_, _, hf, he, h⟩
    · rw [bind_eq_error] at h
      rcases h with h | ⟨_, -, h⟩
      · exact runFrom_fails hf hes h
      · cases h

theorem placeBetween_fails {key : Scalar} {sorted : List (Scalar × α)} (hkey : P key)
    (hsorted : ∀ e ∈ sorted, P e.1) {low high : Nat}
    (h : placeBetween key sorted.toArray low high = .error reason) : SomeFails P reason := by
  induction low, high using placeBetween.induct sorted.toArray with
  | case1 low high hlt middle hnone =>
    rw [placeBetween, dif_pos hlt] at h
    dsimp only at h
    rw [hnone] at h
    cases h
  | case2 low high hlt middle e hsome ih1 ih2 =>
    rw [placeBetween, dif_pos hlt] at h
    dsimp only at h
    rw [hsome] at h
    dsimp only at h
    rw [bind_eq_error] at h
    rcases h with h | ⟨before, -, h⟩
    · rw [List.getElem?_toArray] at hsome
      exact ⟨key, e.1, hkey, hsorted e (List.mem_of_getElem? hsome), h⟩
    · split at h
      · exact ih1 h
      · exact ih2 h
  | case3 low high hlt =>
    rw [placeBetween, dif_neg hlt] at h
    cases h

theorem insertAll_fails {sorted : List (Scalar × α)} (hsorted : ∀ e ∈ sorted, P e.1)
    (hes : ∀ e ∈ es, P e.1) (h : insertAll sorted es = .error reason) : SomeFails P reason := by
  induction es generalizing sorted with
  | nil => cases h
  | cons e es ih =>
    rw [List.forall_mem_cons] at hes
    rw [insertAll, bind_eq_error] at h
    rcases h with h | ⟨place, -, h⟩
    · exact placeBetween_fails hes.1 hsorted h
    · refine ih (fun x hx => ?_) hes.2 h
      rcases List.mem_cons.mp ((insert_perm sorted e place).subset hx) with rfl | hx
      · exact hes.1
      · exact hsorted x hx

/-- Entries are not sorted only where two of their keys cannot be compared. -/
theorem sortEntries_fails (hes : ∀ e ∈ es, P e.1) (h : sortEntries es = .error reason) :
    SomeFails P reason := by
  rw [sortEntries, bind_eq_error] at h
  rcases h with h | ⟨⟨run, rest⟩, hrun, h⟩
  · exact firstRun_fails hes h
  · have hmem : ∀ e ∈ run ++ rest, P e.1 := fun e he => hes e ((firstRun_perm hrun).subset he)
    rw [List.forall_mem_append] at hmem
    exact insertAll_fails hmem.1 hmem.2 h

/-! ## The same map in another order -/

theorem eq_unordered_of_sortEntries (h : sortEntries es = .error reason) :
    ∃ a b, reason = .unordered a b := by
  obtain ⟨a, b, -, -, h⟩ := sortEntries_fails (P := fun _ => True) (fun _ _ => trivial) h
  exact ⟨_, _, eq_unordered_of_before h⟩

/-- If two or more keys rise, any two of them can be compared. -/
theorem Rising.comparable (h : Rising es) (hlen : 2 ≤ es.length) :
    ∀ a ∈ es, ∀ b ∈ es, Comparable a.1 b.1 := by
  obtain ⟨x, y, es, rfl⟩ : ∃ x y es', es = x :: y :: es' := by
    match es, hlen with
    | x :: y :: es', _ => exact ⟨x, y, es', rfl⟩
  have hfirst : ∀ a ∈ x :: y :: es, Comparable a.1 x.1 := by
    intro a ha
    rcases List.mem_cons.mp ha with rfl | ha
    · have hy := (List.rel_of_pairwise_cons h List.mem_cons_self).comparable
      exact hy.trans hy.symm
    · exact (List.rel_of_pairwise_cons h ha).comparable.symm
  exact fun a ha b hb => (hfirst a ha).trans (hfirst b hb).symm

/-- Entries are sorted if no comparison of their keys can fail. -/
theorem exists_sortEntries (h : ∀ a ∈ es, ∀ b ∈ es, Comparable a.1 b.1) :
    ∃ sorted, sortEntries es = .ok sorted := by
  cases hsort : sortEntries es with
  | ok sorted => exact ⟨sorted, rfl⟩
  | error reason =>
    obtain ⟨_, _, ⟨a, ha, rfl⟩, ⟨b, hb, rfl⟩, hfail⟩ :=
      sortEntries_fails (P := fun k => ∃ e ∈ es, e.1 = k) (fun e he => ⟨e, he, rfl⟩) hsort
    obtain ⟨r, hr⟩ := (h a ha b hb).exists_before
    rw [hr] at hfail
    cases hfail

theorem sortEntries_of_length_lt (h : es.length < 2) : sortEntries es = .ok es := by
  match es, h with
  | [], _ => rfl
  | [e], _ => rfl

/-- Whether entries are sorted depends on their keys only, and not on their order. -/
theorem exists_sortEntries_of_keys_perm {fs : List (Scalar × β)} {sorted : List (Scalar × α)}
    (hkeys : (es.map (·.1)).Perm (fs.map (·.1))) (hd : Distinct es)
    (h : sortEntries es = .ok sorted) : ∃ sorted', sortEntries fs = .ok sorted' := by
  have hlength : es.length = fs.length := by
    rw [← List.length_map (f := fun e => e.1), hkeys.length_eq, List.length_map]
  rcases Nat.lt_or_ge fs.length 2 with hlt | hge
  · exact ⟨fs, sortEntries_of_length_lt hlt⟩
  · have hperm := sortEntries_perm h
    have hcomparable := (rising_sortEntries hd h).comparable (by rw [hperm.length_eq]; omega)
    have hkey : ∀ b ∈ fs, ∃ a ∈ sorted, a.1 = b.1 := by
      intro b hb
      have hmem := hkeys.symm.subset (List.mem_map_of_mem (f := fun e => e.1) hb)
      obtain ⟨a, ha, heq⟩ := List.mem_map.mp hmem
      exact ⟨a, hperm.symm.subset ha, heq⟩
    refine exists_sortEntries fun b hb c hc => ?_
    obtain ⟨a, ha, hab⟩ := hkey b hb
    obtain ⟨a', ha', hac⟩ := hkey c hc
    rw [← hab, ← hac]
    exact hcomparable a ha a' ha'

theorem Distinct.of_keys_perm {fs : List (Scalar × β)} (h : Distinct es)
    (hkeys : (es.map (·.1)).Perm (fs.map (·.1))) : Distinct fs := by
  have hmap : (es.map (·.1)).Pairwise fun a b => a.like b = false := List.pairwise_map.mpr h
  refine List.pairwise_map.mp ((List.Perm.pairwise_iff (fun h => ?_) hkeys).mp hmap)
  rwa [like_comm]

/-- Distinct keys that rise have one order only. -/
theorem Rising.forall₂ {fs : List (Scalar × β)} (hes : Rising es) (hfs : Rising fs)
    (h : Reordered (SameKey R) es fs) : List.Forall₂ (SameKey R) es fs := by
  obtain ⟨gs, hperm, hall⟩ := h.exists_perm
  have hgs : Rising gs := by
    have hkeys : (gs.map (·.1)).Pairwise Precedes := by
      rw [keys_eq_of_forall₂ hall]
      exact List.pairwise_map.mpr hfs
    exact List.pairwise_map.mp hkeys
  have heq : es = gs := by
    refine hperm.eq_of_pairwise (fun a b _ _ hab hba => ?_) hes hgs
    exact absurd (hab.trans hba) Precedes.irrefl
  rwa [heq]

/-- The same map in another order is sorted to corresponding entries, or it is not sorted either. -/
theorem sortEntries_endsAlike {fs : List (Scalar × β)} (h : Reordered (SameKey R) es fs)
    (hd : Distinct es) :
    EndsAlike SameKind (List.Forall₂ (SameKey R)) (sortEntries es) (sortEntries fs) := by
  have hkeys := h.keys_perm
  have hd' := hd.of_keys_perm hkeys
  cases hes : sortEntries es with
  | ok sorted =>
    obtain ⟨sorted', hfs⟩ := exists_sortEntries_of_keys_perm hkeys hd hes
    rw [hfs]
    refine .ok (Rising.forall₂ (rising_sortEntries hd hes) (rising_sortEntries hd' hfs) ?_)
    exact h.perm (sortEntries_perm hes) (sortEntries_perm hfs)
  | error reason =>
    cases hfs : sortEntries fs with
    | ok sorted' =>
      obtain ⟨sorted, hok⟩ := exists_sortEntries_of_keys_perm hkeys.symm hd' hfs
      rw [hok] at hes
      cases hes
    | error reason' =>
      obtain ⟨a, b, rfl⟩ := eq_unordered_of_sortEntries hes
      obtain ⟨c, d, rfl⟩ := eq_unordered_of_sortEntries hfs
      exact .error (.unordered a b c d)

end Value
end ApiCompiler
