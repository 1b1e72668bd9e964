import ApiCompiler.Proofs.Derivation.Definitions

/-!
# Which definition of a name is kept

A name may be defined any number of times, and the definitions of other names may stand between.
`preferred?` says which of them counts without any loop: the first one that is an enumeration, or
else the first one.  `definitions_exact` says that deduplication keeps this one of every name, in
the place where the name first appears.

The list is read from the left, so the proof goes by induction from the right.  One more model
changes the definition of its own name only, and it changes the one that is kept
(`find?_define`) just as it changes the one that counts (`preferred?_append_singleton`).
-/

namespace ApiCompiler

/-- The definition that counts for a name: the first one that is an enumeration, or else the first
one. -/
def preferred? (n : String) (models : List Model) : Option Model :=
  (models.find? fun m => m.name = n && m.shape.isEnum).or (models.find? fun m => m.name = n)

/-- The model that is kept of a name when one more model of that name comes. -/
def Model.after (m : Model) : Option Model → Model
  | none => m
  | some d => if m.supersedes d then m else d

/-- Adding a model changes what is found under its own name, and nothing else. -/
theorem find?_define (m : Model) (ds : List Model) (n : String) :
    (define m ds).find? (fun d => d.name = n) =
      if m.name = n then some (m.after (ds.find? fun d => d.name = n))
      else ds.find? fun d => d.name = n := by
  induction ds with
  | nil =>
    rw [define, List.find?_singleton, List.find?_nil]
    by_cases hn : m.name = n
    · simp [hn, Model.after]
    · simp [hn]
  | cons d ds ih =>
    rw [define]
    by_cases hd : d.name = m.name
    · -- the model competes with the one at this place
      rw [if_pos hd]
      by_cases hn : m.name = n
      · have hdn : d.name = n := hd.trans hn
        have hname : (if m.supersedes d then m else d).name = n := by
          split
          · exact hn
          · exact hdn
        rw [if_pos hn, List.find?_cons_of_pos (by simpa using hname),
          List.find?_cons_of_pos (by simpa using hdn), Model.after]
      · have hdn : d.name ≠ n := fun h => hn (hd.symm.trans h)
        have hname : (if m.supersedes d then m else d).name ≠ n := by
          split
          · exact hn
          · exact hdn
        rw [if_neg hn, List.find?_cons_of_neg (by simpa using hname),
          List.find?_cons_of_neg (by simpa using hdn)]
    · rw [if_neg hd]
      by_cases hdn : d.name = n
      · have hn : m.name ≠ n := fun h => hd (hdn.trans h.symm)
        rw [if_neg hn, List.find?_cons_of_pos (by simpa using hdn),
          List.find?_cons_of_pos (by simpa using hdn)]
      · rw [List.find?_cons_of_neg (by simpa using hdn), ih,
          List.find?_cons_of_neg (by simpa using hdn)]

/-- One more model changes which definition counts for its own name, and for no other. -/
theorem preferred?_append_singleton (models : List Model) (m : Model) (n : String) :
    preferred? n (models ++ [m]) =
      if m.name = n then some (m.after (preferred? n models)) else preferred? n models := by
  unfold preferred?
  rw [List.find?_append, List.find?_append, List.find?_singleton, List.find?_singleton]
  by_cases hn : m.name = n
  · cases henum : models.find? fun d => d.name = n && d.shape.isEnum with
    | some e =>
      -- an enumeration that is there already is not superseded
      have he : e.shape.isEnum = true := by
        have hboth := List.find?_some henum
        rw [Bool.and_eq_true] at hboth
        exact hboth.2
      simp [hn, Model.after, Model.supersedes, he]
    | none =>
      cases hfirst : models.find? fun d => d.name = n with
      | none => cases m.shape.isEnum <;> simp [hn, Model.after]
      | some d =>
        -- the first definition is none, since no definition of the name is an enumeration
        have hd : d.shape.isEnum = false := by
          have hname := List.find?_some hfirst
          have hnone := List.find?_eq_none.mp henum d (List.mem_of_find?_eq_some hfirst)
          rw [Bool.and_eq_true, not_and, Bool.not_eq_true] at hnone
          exact hnone hname
        cases hm : m.shape.isEnum <;> simp [hn, Model.after, Model.supersedes, hm, hd]
  · simp [hn]

/-- What is kept of a name is the definition that counts for it. -/
theorem find?_definitions (models : List Model) (n : String) :
    (definitions models).find? (fun d => d.name = n) = preferred? n models := by
  induction models using List.reverseRecOn with
  | nil => rfl
  | append_singleton models m ih =>
    rw [definitions_append_singleton, find?_define, ih, preferred?_append_singleton]

/-- **What deduplication keeps.**  Of any list of models, one is kept for each name, in the order in
which the names first appear, and it is the definition that counts: the first one that is an
enumeration, or else the first one.  So no name comes twice, and deduplicating what is kept changes
nothing. -/
theorem definitions_exact (models : List Model) :
    definitions models =
        (models.map (·.name)).eraseDups.filterMap (fun n => preferred? n models) ∧
      (definitions models).map (·.name) = (models.map (·.name)).eraseDups ∧
      ((definitions models).map (·.name)).Nodup ∧
      definitions (definitions models) = definitions models := by
  have hnodup := nodup_names_definitions models
  have hkept : ∀ d ∈ definitions models, preferred? d.name models = some d := by
    intro d hd
    rw [← find?_definitions]
    exact find?_eq_some_of_nodup hnodup hd
  refine ⟨?_, names_definitions models, hnodup, definitions_eq_self hnodup⟩
  rw [← names_definitions, List.filterMap_map]
  calc definitions models
    _ = (definitions models).filterMap some := List.filterMap_some.symm
    _ = (definitions models).filterMap ((fun n => preferred? n models) ∘ (·.name)) :=
      List.filterMap_congr fun d hd => (hkept d hd).symm

end ApiCompiler
