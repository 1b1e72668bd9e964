import ApiCompiler.Json.Value
import Mathlib.Data.List.Forall2
import Mathlib.Data.List.Nodup

/-!
# Sorting by a text

Maps are walked in the order of their keys and fields in the order of their names: whatever is
sorted is sorted by a text, and sorting is stable.  This file has the facts that hold for every
such key.  The result is in order; what is in order stays as it is; the order in which distinct
keys are given does not matter; and two lists that correspond to each other, key by key, still do
when both are sorted.
-/

namespace ApiCompiler
namespace Sorting

variable {α β : Type}

theorem key_le_trans (key : α → String) (a b c : α) (hab : decide (key a ≤ key b) = true)
    (hbc : decide (key b ≤ key c) = true) : decide (key a ≤ key c) = true := by
  rw [decide_eq_true_eq] at *
  exact String.le_trans hab hbc

theorem key_le_total (key : α → String) (a b : α) :
    (decide (key a ≤ key b) || decide (key b ≤ key a)) = true := by
  rw [Bool.or_eq_true, decide_eq_true_eq, decide_eq_true_eq]
  exact String.le_total (key a) (key b)

/-- A sorted list is in order. -/
theorem pairwise_mergeSort (key : α → String) (l : List α) :
    (l.mergeSort fun a b => key a ≤ key b).Pairwise fun a b => key a ≤ key b := by
  refine (List.pairwise_mergeSort (key_le_trans key) (key_le_total key) l).imp ?_
  intro a b h
  simpa using h

/-- Where no two items have the same key, a sorted list is in strict order. -/
theorem pairwise_lt_mergeSort (key : α → String) {l : List α} (h : (l.map key).Nodup) :
    ((l.mergeSort fun a b => key a ≤ key b).map key).Pairwise (· < ·) := by
  have hnodup : ((l.mergeSort fun a b => key a ≤ key b).map key).Nodup :=
    ((List.mergeSort_perm _ _).map key).nodup_iff.mpr h
  refine ((List.pairwise_map.mpr (pairwise_mergeSort key l)).and hnodup).imp fun hab => ?_
  rw [← String.not_le]
  exact fun hba => hab.2 (String.le_antisymm hab.1 hba)

/-- A list that is in order stays as it is. -/
theorem mergeSort_eq_self {key : α → String} {l : List α}
    (h : l.Pairwise fun a b => key a ≤ key b) : (l.mergeSort fun a b => key a ≤ key b) = l := by
  refine List.mergeSort_of_pairwise (h.imp ?_)
  intro a b hab
  simpa using hab

/-- The order in which items are given does not matter if no two of them have the same key. -/
theorem mergeSort_eq_of_perm {key : α → String} {l l' : List α} (hperm : l.Perm l')
    (hkey : ∀ a ∈ l, ∀ b ∈ l, key a = key b → a = b) :
    (l.mergeSort fun a b => key a ≤ key b) = l'.mergeSort fun a b => key a ≤ key b := by
  have hsorted : (l.mergeSort fun a b => key a ≤ key b).Perm
      (l'.mergeSort fun a b => key a ≤ key b) :=
    ((List.mergeSort_perm _ _).trans hperm).trans (List.mergeSort_perm _ _).symm
  refine List.Perm.eq_of_pairwise (fun a b ha hb hab hba => ?_) (pairwise_mergeSort key l)
    (pairwise_mergeSort key l') hsorted
  have hb' : b ∈ l := hperm.symm.subset (List.mem_mergeSort.mp hb)
  exact hkey a (List.mem_mergeSort.mp ha) b hb' (String.le_antisymm hab hba)

/-- Texts in another order are sorted to the same list. -/
theorem mergeSort_texts_eq_of_perm {l l' : List String} (hperm : l.Perm l') :
    l.mergeSort (· ≤ ·) = l'.mergeSort (· ≤ ·) :=
  mergeSort_eq_of_perm hperm fun _ _ _ _ h => h

/-- Lists that correspond to each other do so when both are sorted, by orders that cannot tell
corresponding items apart. -/
theorem forall₂_mergeSort_of_le {R : α → β → Prop} {le : α → α → Bool} {le' : β → β → Bool}
    {as : List α} {bs : List β} (hle : ∀ a b a' b', R a b → R a' b' → le a a' = le' b b')
    (h : List.Forall₂ R as bs) : List.Forall₂ R (as.mergeSort le) (bs.mergeSort le') := by
  -- both lists are the sides of one list of pairs, and the pairs can be sorted by either side
  have hpairs : ∃ ps : List (α × β),
      ps.map (fun p => p.1) = as ∧ ps.map (fun p => p.2) = bs ∧ ∀ p ∈ ps, R p.1 p.2 := by
    induction h with
    | nil => exact ⟨[], rfl, rfl, fun p hp => absurd hp List.not_mem_nil⟩
    | @cons a b as bs hab _ ih =>
      obtain ⟨ps, h1, h2, hps⟩ := ih
      refine ⟨(a, b) :: ps, by rw [List.map_cons, h1], by rw [List.map_cons, h2], ?_⟩
      rw [List.forall_mem_cons]
      exact ⟨hab, hps⟩
  obtain ⟨ps, rfl, rfl, hps⟩ := hpairs
  have hsame : ∀ p ∈ ps, ∀ q ∈ ps, le p.1 q.1 = le' p.2 q.2 :=
    fun p hp q hq => hle _ _ _ _ (hps p hp) (hps q hq)
  have h1 := List.map_mergeSort (l := ps) (f := fun p => p.1) (r := fun p q => le p.1 q.1) (s := le)
    (fun _ _ _ _ => rfl)
  have h2 := List.map_mergeSort (l := ps) (f := fun p => p.2) (r := fun p q => le p.1 q.1)
    (s := le') hsame
  rw [← h1, ← h2, List.forall₂_map_left_iff, List.forall₂_map_right_iff, List.forall₂_same]
  intro p hp
  exact hps p (List.mem_mergeSort.mp hp)

/-- Lists that correspond to each other, key by key, do so when both are sorted. -/
theorem forall₂_mergeSort {key : α → String} {key' : β → String} {R : α → β → Prop}
    {as : List α} {bs : List β} (hR : ∀ a b, R a b → key a = key' b)
    (h : List.Forall₂ R as bs) :
    List.Forall₂ R (as.mergeSort fun a b => key a ≤ key b)
      (bs.mergeSort fun a b => key' a ≤ key' b) :=
  forall₂_mergeSort_of_le (fun a b a' b' hab hab' => by rw [hR a b hab, hR a' b' hab']) h

/-- A map is sorted to the same list however its entries are ordered. -/
theorem sortedByKey_eq_of_perm {l l' : List (String × α)} (hperm : l.Perm l')
    (hkeys : (l.map (·.1)).Nodup) : sortedByKey l = sortedByKey l' :=
  mergeSort_eq_of_perm hperm fun _ ha _ hb hab => List.inj_on_of_nodup_map hkeys ha hb hab

/-- Sorting by key and changing the values, in either order, is the same. -/
theorem sortedByKey_map (l : List (String × α)) (f : String × α → β) :
    sortedByKey (l.map fun e => (e.1, f e)) = (sortedByKey l).map fun e => (e.1, f e) := by
  have h := List.map_mergeSort (l := l) (f := fun e => (e.1, f e))
    (r := fun a b => decide (a.1 ≤ b.1)) (s := fun a b => decide (a.1 ≤ b.1))
    (fun _ _ _ _ => rfl)
  exact h.symm

end Sorting
end ApiCompiler
