import ApiCompiler.Derivation.Reachability
import ApiCompiler.Proofs.Derivation.Definitions
import ApiCompiler.Proofs.Shape.Mentions
import ApiCompiler.Proofs.Sorting
import Mathlib.Order.Bounds.Basic

/-!
# Tree shaking is exact

Which names a client needs can be said without an algorithm.  A set of names is closed if it
contains every name that the operations mention and, with a name, every name that the definition
kept for it mentions (`ReferencesClosed`); the client needs the least closed set.  `prune_exact`
says that pruning computes this set, whatever models are given and however they refer to each
other.

The walk is compared with `Reaches`, which is the least closed set as an inductive predicate.  The
comparison follows the recursion of `visit`: taking the definition of a name out of those that
remain loses nothing, since whatever this definition mentions is put on the list in exchange
(`reaches_cons_of_some`).

Pruning comes before deduplication, and both have to agree on the definition that counts.  They do
because pruning keeps or drops all definitions of a name together, and deduplication never
compares models of different names.
-/

namespace ApiCompiler

/-! ## The walk -/

/-- The names that can be reached from some names through the definitions of a list. -/
inductive Reaches (defs : List Model) (roots : List String) : String → Prop
  | root {n : String} (h : n ∈ roots) : Reaches defs roots n
  | step {k n : String} {m : Model} (found : defs.find? (fun m => m.name = k) = some m)
      (h : Reaches defs roots k) (hn : m.shape.Mentions n) : Reaches defs roots n

variable {defs : List Model} {roots : List String}

theorem find?_otherModels (n k : String) (models : List Model) :
    (otherModels n models).find? (fun m => m.name = k) =
      if k = n then none else models.find? (fun m => m.name = k) := by
  have hofNames : otherModels n models = ofNames (fun k => k ≠ n) models := rfl
  rw [hofNames, find?_ofNames]
  by_cases hk : k = n <;> simp [hk]

/-- The definition of a name is as good as the names it mentions. -/
theorem reaches_cons_of_some {n v : String} {m : Model}
    (found : defs.find? (fun m => m.name = n) = some m) :
    Reaches defs (n :: roots) v ↔
      v = n ∨ Reaches (otherModels n defs) (roots ++ m.shape.references) v := by
  constructor
  · intro h
    induction h with
    | root h =>
      rcases List.mem_cons.mp h with rfl | h
      · exact Or.inl rfl
      · exact Or.inr (.root (List.mem_append_left _ h))
    | @step k v m' hfound _ hv ih =>
      refine Or.inr ?_
      by_cases hk : k = n
      · obtain rfl : m' = m := by
          rw [hk, found] at hfound
          exact (Option.some.inj hfound).symm
        exact .root (List.mem_append_right _ (Shape.mem_references.mpr hv))
      · refine .step ?_ (ih.resolve_left hk) hv
        rw [find?_otherModels, if_neg hk, hfound]
  · have hn : Reaches defs (n :: roots) n := .root List.mem_cons_self
    rintro (rfl | h)
    · exact hn
    · induction h with
      | root h =>
        rcases List.mem_append.mp h with h | h
        · exact .root (List.mem_cons_of_mem _ h)
        · exact .step found hn (Shape.mem_references.mp h)
      | @step k v m' hfound _ hv ih =>
        rw [find?_otherModels] at hfound
        split at hfound
        · cases hfound
        · exact .step hfound ih hv

/-- A name without a definition leads nowhere. -/
theorem reaches_cons_of_none {n v : String}
    (found : defs.find? (fun m => m.name = n) = none) :
    Reaches defs (n :: roots) v ↔ v = n ∨ Reaches defs roots v := by
  constructor
  · intro h
    induction h with
    | root h =>
      rcases List.mem_cons.mp h with rfl | h
      · exact Or.inl rfl
      · exact Or.inr (.root h)
    | @step k v m' hfound _ hv ih =>
      rcases ih with rfl | ih
      · rw [found] at hfound
        cases hfound
      · exact Or.inr (.step hfound ih hv)
  · rintro (rfl | h)
    · exact .root List.mem_cons_self
    · induction h with
      | root h => exact .root (List.mem_cons_of_mem _ h)
      | step hfound _ hv ih => exact .step hfound ih hv

theorem visit_of_some {n : String} {m : Model}
    (found : defs.find? (fun m => m.name = n) = some m) :
    visit defs (n :: roots) = n :: visit (otherModels n defs) (roots ++ m.shape.references) := by
  rw [visit]
  split
  · rename_i heq
    rw [found] at heq
    cases heq
    rfl
  · rename_i heq
    rw [found] at heq
    cases heq

theorem visit_of_none {n : String} (found : defs.find? (fun m => m.name = n) = none) :
    visit defs (n :: roots) = n :: visit defs roots := by
  rw [visit]
  split
  · rename_i heq
    rw [found] at heq
    cases heq
  · rfl

/-- The walk meets exactly the names that can be reached. -/
theorem mem_visit {n : String} : n ∈ visit defs roots ↔ Reaches defs roots n := by
  induction defs, roots using visit.induct with
  | case1 defs =>
    rw [visit]
    constructor
    · intro h
      cases h
    · intro h
      induction h with
      | root h => exact h
      | step _ _ _ ih => cases ih
  | case2 defs k rest m found ih =>
    rw [visit_of_some found, List.mem_cons, ih, reaches_cons_of_some found]
  | case3 defs k rest found ih =>
    rw [visit_of_none found, List.mem_cons, ih, reaches_cons_of_none found]

/-! ## The least closed set -/

/-- A set of names contains every name that the operations of services mention, and with a name
every name that its definition mentions. -/
structure ReferencesClosed (services : List Service) (defs : List Model) (R : Set String) :
    Prop where
  operations : ∀ s ∈ services, ∀ op ∈ s.operations, ∀ shape ∈ op.shapes, ∀ n,
    shape.Mentions n → n ∈ R
  definitions : ∀ m ∈ defs, m.name ∈ R → ∀ n, m.shape.Mentions n → n ∈ R

theorem mem_rootReferences {services : List Service} {n : String} :
    n ∈ rootReferences services ↔
      ∃ s ∈ services, ∃ op ∈ s.operations, ∃ shape ∈ op.shapes, shape.Mentions n := by
  simp [rootReferences]

/-- What the operations reach is the least closed set of names. -/
theorem reaches_isLeast (services : List Service) (hnodup : (defs.map (·.name)).Nodup) :
    IsLeast {R | ReferencesClosed services defs R}
      {n | Reaches defs (rootReferences services) n} := by
  constructor
  · constructor
    · intro s hs op hop shape hshape n hn
      exact .root (mem_rootReferences.mpr ⟨s, hs, op, hop, shape, hshape, hn⟩)
    · intro m hm hname n hn
      exact Reaches.step (find?_eq_some_of_nodup hnodup hm) hname hn
  · intro R hclosed n hn
    induction hn with
    | root h =>
      obtain ⟨s, hs, op, hop, shape, hshape, hn⟩ := mem_rootReferences.mp h
      exact hclosed.operations s hs op hop shape hshape _ hn
    | @step k n m found _ hn ih =>
      have hname : m.name = k := by simpa using List.find?_some found
      rw [← hname] at ih
      exact hclosed.definitions m (List.mem_of_find?_eq_some found) ih n hn

/-! ## What pruning leaves -/

open Classical in
/-- Exactly the names of a set are left: every definition of them, a list of those that are
defined, and a sorted list of those that are not. -/
structure Pruned.KeepsExactly (p : Pruned) (models : List Model) (R : Set String) : Prop where
  models_eq : p.models = models.filter fun m => decide (m.name ∈ R)
  definitions_eq :
    ApiCompiler.definitions p.models =
      (ApiCompiler.definitions models).filter fun m => decide (m.name ∈ R)
  reachable_eq :
    p.reachable = (models.map (·.name)).eraseDups.filter fun n => decide (n ∈ R)
  nodup_reachable : p.reachable.Nodup
  mem_reachable : ∀ n, n ∈ p.reachable ↔ n ∈ R ∧ ∃ m ∈ models, m.name = n
  sorted_unresolved : p.unresolved.Pairwise (· ≤ ·)
  nodup_unresolved : p.unresolved.Nodup
  mem_unresolved : ∀ n, n ∈ p.unresolved ↔ n ∈ R ∧ ∀ m ∈ models, m.name ≠ n

/-- The names of the models that are kept are the names that are kept. -/
theorem names_ofNames (q : String → Bool) (models : List Model) :
    ((ofNames q models).map (·.name)).eraseDups =
      (models.map (·.name)).eraseDups.filter q := by
  rw [← names_definitions, definitions_ofNames, ← names_definitions, ofNames, List.filter_map]
  rfl

/-- Pruning keeps exactly what the operations reach. -/
theorem pruneModels_keepsExactly (services : List Service) (models : List Model) :
    (pruneModels services models).KeepsExactly models
      {n | Reaches (definitions models) (rootReferences services) n} := by
  classical
  have hmet : ∀ n, (visit (definitions models) (rootReferences services)).contains n =
      decide (n ∈ {n | Reaches (definitions models) (rootReferences services) n}) := by
    intro n
    rw [Bool.eq_iff_iff, List.contains_iff_mem, decide_eq_true_eq, mem_visit]
    rfl
  have hkept : (pruneModels services models).models =
      ofNames (fun n => decide (n ∈ {n | Reaches (definitions models) (rootReferences services) n}))
        models := by
    show models.filter _ = _
    rw [ofNames]
    congr 1
    funext m
    exact hmet m.name
  have hreachable : (pruneModels services models).reachable =
      (models.map (·.name)).eraseDups.filter
        fun n => decide (n ∈ {n | Reaches (definitions models) (rootReferences services) n}) := by
    show ((pruneModels services models).models.map (·.name)).eraseDups = _
    rw [hkept, names_ofNames]
  refine
    { models_eq := hkept
      definitions_eq := ?_
      reachable_eq := hreachable
      nodup_reachable := ?_
      mem_reachable := ?_
      sorted_unresolved := Sorting.pairwise_mergeSort (fun n => n) _
      nodup_unresolved := ?_
      mem_unresolved := ?_ }
  · rw [hkept, definitions_ofNames]
    rfl
  · rw [hreachable]
    exact (nodup_eraseDups _).filter _
  · intro n
    rw [hreachable, List.mem_filter, List.mem_eraseDups, decide_eq_true_eq, and_comm, List.mem_map]
  · exact (List.mergeSort_perm _ _).nodup_iff.mpr (nodup_eraseDups _)
  · intro n
    show n ∈ List.mergeSort _ _ ↔ _
    rw [List.mem_mergeSort, List.mem_eraseDups, List.mem_filter, mem_visit]
    refine and_congr_right fun _ => ?_
    rw [Bool.not_eq_true', ← Bool.not_eq_true, List.contains_iff_mem, mem_names_definitions]
    simp

/-- **Tree shaking is exact.**  For all services and models there is a least set of names that
contains what the operations mention and what the definitions of its names mention, and pruning
leaves exactly the names of this set; names without a definition are reported. -/
theorem prune_exact (services : List Service) (models : List Model) :
    ∃ R : Set String, IsLeast {S | ReferencesClosed services (definitions models) S} R ∧
      ∃ p : Pruned, p.KeepsExactly models R ∧
        prune false services models =
          .ok (p, if p.unresolved.isEmpty then [] else [.unresolvedReferences p.unresolved]) := by
  refine ⟨_, reaches_isLeast services (nodup_names_definitions models), pruneModels services models,
    pruneModels_keepsExactly services models, ?_⟩
  by_cases hempty : (pruneModels services models).unresolved.isEmpty <;> simp [prune, hempty]

end ApiCompiler
