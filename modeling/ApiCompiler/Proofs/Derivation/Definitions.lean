import ApiCompiler.Derivation.Definitions
import ApiCompiler.Proofs.Repetitions
import Mathlib.Data.List.Dedup

/-!
# What deduplication keeps

`definitions` reads a list of models from the left and keeps one model for each name.  The proofs
go by induction from the right: the last model either finds its name, and may then supersede the
model kept for it, or is appended.

Two consequences carry the rest.  The names that are kept are the names of the list, each once, in
the order in which they first appear.  And since a model only ever competes with models of its own
name, dropping names before or after deduplication is the same (`definitions_ofNames`).
-/

namespace ApiCompiler

theorem definitions_append_singleton (models : List Model) (m : Model) :
    definitions (models ++ [m]) = define m (definitions models) := by
  rw [definitions, List.foldl_append]
  rfl

/-- A new name is appended, and a known one stays in its place. -/
theorem names_define (m : Model) (ds : List Model) :
    (define m ds).map (·.name) =
      if m.name ∈ ds.map (·.name) then ds.map (·.name) else ds.map (·.name) ++ [m.name] := by
  induction ds with
  | nil => rfl
  | cons d ds ih =>
    rw [define]
    by_cases hd : d.name = m.name
    · have hname : (if m.supersedes d then m else d).name = d.name := by
        split
        · exact hd.symm
        · rfl
      rw [if_pos hd, List.map_cons, hname, if_pos (by simp [hd])]
      rfl
    · have hiff : m.name ∈ (d :: ds).map (·.name) ↔ m.name ∈ ds.map (·.name) := by
        rw [List.map_cons, List.mem_cons]
        exact or_iff_right fun h => hd h.symm
      rw [if_neg hd, List.map_cons, ih]
      by_cases hmem : m.name ∈ ds.map (·.name)
      · rw [if_pos hmem, if_pos (hiff.mpr hmem)]
        rfl
      · rw [if_neg hmem, if_neg (mt hiff.mp hmem)]
        rfl

/-- The names that are kept: each once, in the order of first appearance. -/
theorem names_definitions (models : List Model) :
    (definitions models).map (·.name) = (models.map (·.name)).eraseDups := by
  induction models using List.reverseRecOn with
  | nil => rfl
  | append_singleton models m ih =>
    rw [definitions_append_singleton, names_define, ih, List.map_append, List.eraseDups_append]
    simp only [List.mem_eraseDups]
    split
    · case isTrue hmem =>
      have hnone : (List.map (·.name) [m]).removeAll (models.map (·.name)) = [] := by
        simpa [List.removeAll] using hmem
      rw [hnone, List.eraseDups_nil, List.append_nil]
    · case isFalse hmem =>
      have hone : (List.map (·.name) [m]).removeAll (models.map (·.name)) = [m.name] := by
        simpa [List.removeAll] using hmem
      rw [hone]
      rfl

theorem mem_names_definitions {models : List Model} {n : String} :
    n ∈ (definitions models).map (·.name) ↔ n ∈ models.map (·.name) := by
  rw [names_definitions, List.mem_eraseDups]

theorem eq_or_mem_of_mem_define {m e : Model} {ds : List Model} (h : e ∈ define m ds) :
    e = m ∨ e ∈ ds := by
  induction ds with
  | nil => exact Or.inl (List.mem_singleton.mp h)
  | cons d ds ih =>
    rw [define] at h
    split at h
    · rcases List.mem_cons.mp h with rfl | h
      · split
        · exact Or.inl rfl
        · exact Or.inr List.mem_cons_self
      · exact Or.inr (List.mem_cons_of_mem _ h)
    · rcases List.mem_cons.mp h with rfl | h
      · exact Or.inr List.mem_cons_self
      · exact (ih h).imp_right (List.mem_cons_of_mem _)

/-- Only models of the list are kept. -/
theorem mem_of_mem_definitions {models : List Model} {m : Model} (h : m ∈ definitions models) :
    m ∈ models := by
  induction models using List.reverseRecOn with
  | nil => cases h
  | append_singleton models a ih =>
    rw [definitions_append_singleton] at h
    rcases eq_or_mem_of_mem_define h with rfl | h
    · exact List.mem_append_right _ List.mem_cons_self
    · exact List.mem_append_left _ (ih h)

/-- No two models that are kept have the same name. -/
theorem nodup_names_definitions (models : List Model) :
    ((definitions models).map (·.name)).Nodup := by
  rw [names_definitions]
  exact nodup_eraseDups _

/-- A new name is appended to the definitions. -/
theorem define_of_new {m : Model} {ds : List Model} (h : m.name ∉ ds.map (·.name)) :
    define m ds = ds ++ [m] := by
  induction ds with
  | nil => rfl
  | cons d ds ih =>
    rw [List.map_cons, List.mem_cons, not_or] at h
    rw [define, if_neg fun hd => h.1 hd.symm, ih h.2, List.cons_append]

/-- Where no name is defined twice, nothing is dropped. -/
theorem definitions_eq_self {models : List Model} (h : (models.map (·.name)).Nodup) :
    definitions models = models := by
  induction models using List.reverseRecOn with
  | nil => rfl
  | append_singleton models m ih =>
    rw [List.map_append, List.map_singleton, List.nodup_append] at h
    obtain ⟨hnodup, -, hdisjoint⟩ := h
    have hnew : m.name ∉ models.map (·.name) := fun hmem =>
      hdisjoint _ hmem _ (List.mem_singleton_self _) rfl
    rw [definitions_append_singleton, ih hnodup, define_of_new hnew]

/-! ## Dropping names -/

/-- The models of the names of which `p` holds. -/
def ofNames (p : String → Bool) (models : List Model) : List Model :=
  models.filter fun m => p m.name

theorem mem_names_ofNames {p : String → Bool} {models : List Model} {n : String} :
    n ∈ (ofNames p models).map (·.name) ↔ p n = true ∧ n ∈ models.map (·.name) := by
  rw [ofNames, List.mem_map, List.mem_map]
  constructor
  · rintro ⟨m, hm, rfl⟩
    obtain ⟨hm, hp⟩ := List.mem_filter.mp hm
    exact ⟨hp, m, hm, rfl⟩
  · rintro ⟨hp, m, hm, rfl⟩
    exact ⟨m, List.mem_filter.mpr ⟨hm, hp⟩, rfl⟩

/-- A name that is not dropped is looked up as before. -/
theorem find?_ofNames (p : String → Bool) (n : String) (models : List Model) :
    (ofNames p models).find? (fun m => m.name = n) =
      if p n then models.find? (fun m => m.name = n) else none := by
  rw [ofNames, List.find?_filter]
  split
  · case isTrue hn =>
    congr 1
    funext m
    by_cases hm : m.name = n
    · simp [hm, hn]
    · simp [hm]
  · case isFalse hn =>
    rw [List.find?_eq_none]
    intro m _
    by_cases hm : m.name = n
    · simp [hm, hn]
    · simp [hm]

/-- A model of a name that is dropped leaves nothing behind, and any other is defined as before. -/
theorem ofNames_define (p : String → Bool) (m : Model) (ds : List Model) :
    ofNames p (define m ds) =
      if p m.name then define m (ofNames p ds) else ofNames p ds := by
  induction ds with
  | nil => cases hp : p m.name <;> simp [define, ofNames, hp]
  | cons d ds ih =>
    rw [define]
    by_cases hd : d.name = m.name
    · rw [if_pos hd]
      cases hp : p m.name with
      | true =>
        have hpd : p d.name = true := by rw [hd, hp]
        by_cases hs : m.supersedes d <;> simp [ofNames, hp, hs, define, hd]
      | false =>
        have hpd : p d.name = false := by rw [hd, hp]
        by_cases hs : m.supersedes d <;> simp [ofNames, hp, hpd, hs]
    · rw [if_neg hd]
      have hcons : ∀ l, ofNames p (d :: l) = if p d.name then d :: ofNames p l else ofNames p l :=
        fun l => List.filter_cons
      rw [hcons, hcons, ih]
      by_cases hpd : p d.name <;> by_cases hp : p m.name <;> simp [hpd, hp, define, hd]

/-- Dropping names and keeping one definition of each name can be done in either order. -/
theorem definitions_ofNames (p : String → Bool) (models : List Model) :
    definitions (ofNames p models) = ofNames p (definitions models) := by
  induction models using List.reverseRecOn with
  | nil => rfl
  | append_singleton models m ih =>
    have happend : ofNames p (models ++ [m]) =
        ofNames p models ++ if p m.name then [m] else [] := by
      rw [ofNames, List.filter_append, List.filter_singleton]
      cases p m.name <;> rfl
    rw [happend, definitions_append_singleton, ofNames_define, ← ih]
    cases p m.name with
    | true => rw [if_pos rfl, if_pos rfl, definitions_append_singleton]
    | false => rw [if_neg Bool.false_ne_true, if_neg Bool.false_ne_true, List.append_nil]

end ApiCompiler
