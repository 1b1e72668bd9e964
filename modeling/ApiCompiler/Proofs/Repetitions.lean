import Mathlib.Data.List.Induction
import Mathlib.Data.List.Nodup

/-!
# Repetitions

Where repetitions are removed from a list, the first appearances stay.  The proofs go by induction
from the right: the last item is a repetition, or the first appearance of something new
(`eraseDups_append_singleton`).  Where there are none, an item is found by its key.
-/

namespace ApiCompiler

variable {α : Type}

theorem eraseDups_append_singleton [BEq α] [LawfulBEq α] [DecidableEq α] (l : List α) (a : α) :
    (l ++ [a]).eraseDups = if a ∈ l then l.eraseDups else l.eraseDups ++ [a] := by
  rw [List.eraseDups_append]
  split
  · case isTrue hold => simp [List.removeAll, hold]
  · case isFalse hnew => simp [List.removeAll, hnew, List.eraseDups_cons]

/-- Removing repetitions leaves none. -/
theorem nodup_eraseDups [DecidableEq α] (l : List α) : l.eraseDups.Nodup := by
  induction l using List.reverseRecOn with
  | nil => exact List.nodup_nil
  | append_singleton l a ih =>
    rw [eraseDups_append_singleton]
    split
    · exact ih
    · case isFalse hnew =>
      refine List.nodup_append.mpr ⟨ih, List.nodup_singleton a, fun b hb c hc hbc => hnew ?_⟩
      rw [← List.mem_singleton.mp hc, ← hbc]
      exact List.mem_eraseDups.mp hb

/-- Of items at increasing positions the first appearances come in the order of the positions. -/
theorem pairwise_eraseDups [DecidableEq α] {l : List (Nat × α)}
    (h : (l.map (·.1)).Pairwise (· < ·)) :
    (l.map (·.2)).eraseDups.Pairwise fun a b => ∃ i, (i, a) ∈ l ∧ ∀ j, (j, b) ∈ l → i < j := by
  induction l using List.reverseRecOn with
  | nil => exact List.Pairwise.nil
  | append_singleton l d ih =>
    rw [List.map_append, List.pairwise_append] at h
    obtain ⟨hl, -, hlast⟩ := h
    have hbefore : ∀ e ∈ l, ∀ j b, (j, b) ∈ [d] → e.1 < j := by
      intro e he j b hmem
      obtain rfl := List.mem_singleton.mp hmem
      exact hlast e.1 (List.mem_map_of_mem he) j (List.mem_singleton.mpr rfl)
    -- the last position is behind all others, so it takes nothing from what appeared before
    have hold : (l.map (·.2)).eraseDups.Pairwise fun a b =>
        ∃ i, (i, a) ∈ l ++ [d] ∧ ∀ j, (j, b) ∈ l ++ [d] → i < j := by
      refine (ih hl).imp fun ⟨i, hi, hfirst⟩ => ⟨i, List.mem_append_left _ hi, fun j hj => ?_⟩
      exact (List.mem_append.mp hj).elim (hfirst j) (hbefore _ hi j _)
    rw [List.map_append, List.map_singleton, eraseDups_append_singleton]
    split
    · exact hold
    · case isFalse hnew =>
      refine List.pairwise_append.mpr ⟨hold, List.pairwise_singleton _ _, fun a ha b hb => ?_⟩
      obtain ⟨e, he, rfl⟩ := List.mem_map.mp (List.mem_eraseDups.mp ha)
      obtain rfl := List.mem_singleton.mp hb
      refine ⟨e.1, List.mem_append_left _ he, fun j hj => ?_⟩
      exact (List.mem_append.mp hj).elim (fun hj => absurd (List.mem_map_of_mem hj) hnew)
        (hbefore e he j _)

/-- Where no two items have the same key, looking the key of an item up finds the item. -/
theorem find?_eq_some_of_nodup {κ : Type} [DecidableEq κ] {key : α → κ} {l : List α}
    (hkeys : (l.map key).Nodup) {a : α} (ha : a ∈ l) :
    l.find? (fun b => key b = key a) = some a := by
  cases hfound : l.find? (fun b => key b = key a) with
  | none =>
    rw [List.find?_eq_none] at hfound
    exact absurd (decide_eq_true rfl) (hfound a ha)
  | some b =>
    have hkey : key b = key a := by simpa using List.find?_some hfound
    rw [List.inj_on_of_nodup_map hkeys (List.mem_of_find?_eq_some hfound) ha hkey]

end ApiCompiler
