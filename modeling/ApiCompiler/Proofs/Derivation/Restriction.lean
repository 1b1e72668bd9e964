import ApiCompiler.Derivation
import ApiCompiler.Proofs.Derivation.Filtering
import ApiCompiler.Proofs.Derivation.TreeShaking

/-!
# Restricting a description to some services

Deriving a client is restricting a description to the services that its filter leaves: besides
them, the definitions of the names that they reach are kept (`definitionsFor`).

The definitions that are kept for some services are enough for any services that refer to less:
these reach no name that was dropped, and each name that they reach has its definition, in the same
place (`definitionsFor_definitionsFor`).  So a restricted description may be restricted further as
if nothing had been dropped before, and fewer services have fewer definitions.
-/

namespace ApiCompiler

variable {defs models : List Model} {roots more : List String} {few many : List Service}

/-! ## Reachability in a part of the definitions -/

theorem Reaches.mono (h : roots ⊆ more) {n : String} (hn : Reaches defs roots n) :
    Reaches defs more n := by
  induction hn with
  | root hroot => exact .root (h hroot)
  | step found _ hn ih => exact .step found ih hn

/-- Names that are not reached can be dropped. -/
theorem reaches_ofNames {p : String → Bool} (h : ∀ n, Reaches defs roots n → p n = true)
    {n : String} : Reaches (ofNames p defs) roots n ↔ Reaches defs roots n := by
  constructor
  · intro hn
    induction hn with
    | root hroot => exact .root hroot
    | @step k n m found _ hn ih =>
      rw [find?_ofNames, if_pos (h k ih)] at found
      exact .step found ih hn
  · intro hn
    induction hn with
    | root hroot => exact .root hroot
    | @step k n m found hk hn ih =>
      refine .step ?_ ih hn
      rw [find?_ofNames, if_pos (h k hk), found]

/-! ## The definitions for some services -/

/-- The definitions that are kept for some services. -/
def definitionsFor (services : List Service) (models : List Model) : List Model :=
  definitions (pruneModels services models).models

/-- The names that some services refer to and that have no definition, sorted. -/
def unresolvedFor (services : List Service) (models : List Model) : List String :=
  (pruneModels services models).unresolved

/-- Whether a name is met on the way from some services. -/
def isMet (services : List Service) (models : List Model) (n : String) : Bool :=
  (visit (definitions models) (rootReferences services)).contains n

theorem isMet_iff {services : List Service} {n : String} :
    isMet services models n = true ↔ Reaches (definitions models) (rootReferences services) n := by
  rw [isMet, List.contains_iff_mem, mem_visit]

theorem definitionsFor_eq (services : List Service) (models : List Model) :
    definitionsFor services models = ofNames (isMet services models) (definitions models) :=
  definitions_ofNames (isMet services models) models

theorem definitions_definitionsFor (services : List Service) (models : List Model) :
    definitions (definitionsFor services models) = definitionsFor services models :=
  definitions_eq_self (nodup_names_definitions _)

theorem isMet_mono (h : rootReferences few ⊆ rootReferences many) {n : String}
    (hn : isMet few models n = true) : isMet many models n = true :=
  isMet_iff.mpr ((isMet_iff.mp hn).mono h)

/-- Services that refer to less meet the same in the definitions that are kept for others. -/
theorem isMet_definitionsFor (h : rootReferences few ⊆ rootReferences many) :
    isMet few (definitionsFor many models) = isMet few models := by
  funext n
  rw [Bool.eq_iff_iff, isMet_iff, isMet_iff, definitions_definitionsFor, definitionsFor_eq]
  exact reaches_ofNames fun n hn => isMet_iff.mpr (hn.mono h)

/-- They have the same definitions there. -/
theorem definitionsFor_definitionsFor (h : rootReferences few ⊆ rootReferences many) :
    definitionsFor few (definitionsFor many models) = definitionsFor few models := by
  rw [definitionsFor_eq, isMet_definitionsFor h, definitions_definitionsFor, definitionsFor_eq,
    definitionsFor_eq, ofNames, ofNames, List.filter_filter, ofNames]
  refine List.filter_congr fun m _ => ?_
  exact Bool.and_eq_left_iff_imp.mpr (isMet_mono h)

theorem definitionsFor_sublist (h : rootReferences few ⊆ rootReferences many) :
    (definitionsFor few models).Sublist (definitionsFor many models) := by
  rw [← definitionsFor_definitionsFor h, definitionsFor_eq, definitions_definitionsFor]
  exact List.filter_sublist

/-- A name is unresolved if it is met and no model has it. -/
theorem mem_unresolvedFor {services : List Service} {n : String} :
    n ∈ unresolvedFor services models ↔
      isMet services models n = true ∧ n ∉ models.map (·.name) := by
  rw [unresolvedFor, (pruneModels_keepsExactly services models).mem_unresolved, isMet_iff]
  simp

theorem unresolvedFor_subset (h : rootReferences few ⊆ rootReferences many) :
    unresolvedFor few models ⊆ unresolvedFor many models := by
  intro n hn
  obtain ⟨hmet, hnone⟩ := mem_unresolvedFor.mp hn
  exact mem_unresolvedFor.mpr ⟨isMet_mono h hmet, hnone⟩

/-- No name is found among the definitions that were not dropped only because others were. -/
theorem unresolvedFor_definitionsFor (h : rootReferences few ⊆ rootReferences many) :
    unresolvedFor few (definitionsFor many models) = unresolvedFor few models := by
  have hmem : ∀ n, n ∈ unresolvedFor few (definitionsFor many models) ↔
      n ∈ unresolvedFor few models := by
    intro n
    rw [mem_unresolvedFor, mem_unresolvedFor, isMet_definitionsFor h]
    refine and_congr_right fun hmet => not_congr ?_
    rw [definitionsFor_eq, mem_names_ofNames, mem_names_definitions]
    exact and_iff_right (isMet_mono h hmet)
  -- both lists are sorted and without repetition, so their members decide them
  have hkeeps := pruneModels_keepsExactly few (definitionsFor many models)
  have hkeeps' := pruneModels_keepsExactly few models
  have hperm : (unresolvedFor few (definitionsFor many models)).Perm (unresolvedFor few models) :=
    (List.perm_ext_iff_of_nodup hkeeps.nodup_unresolved hkeeps'.nodup_unresolved).mpr hmem
  exact hperm.eq_of_pairwise (fun _ _ _ _ => String.le_antisymm) hkeeps.sorted_unresolved
    hkeeps'.sorted_unresolved

end ApiCompiler
