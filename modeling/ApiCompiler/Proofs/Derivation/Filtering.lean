import ApiCompiler.Derivation.TagFilter
import Mathlib.Data.List.Forall2

/-!
# Filters select operations

Both modes of a filter do the same thing: they keep the operations of which a predicate holds, and
drop the services that are left empty.  So everything about filters is about `selectOperations`:
selecting twice is selecting by the conjunction, which makes filters commute and idempotent, and a
stronger predicate selects a part of what a weaker one does.
-/

namespace ApiCompiler

/-! ## Selecting operations -/

/-- The operations of a service of which a predicate holds, unless there are none. -/
def Service.select (p : String → Operation → Bool) (s : Service) : Option Service :=
  if (s.operations.filter (p s.tag)).isEmpty then none
  else some ⟨s.tag, s.operations.filter (p s.tag)⟩

/-- The operations of which a predicate of tag and operation holds; no service is left empty. -/
def selectOperations (p : String → Operation → Bool) (services : List Service) : List Service :=
  services.filterMap (Service.select p)

/-- A part of a service has its tag and some of its operations, in their order. -/
structure Service.PartOf (part whole : Service) : Prop where
  tag_eq : part.tag = whole.tag
  operations : part.operations.Sublist whole.operations

variable {p q : String → Operation → Bool}

theorem Service.bind_select (s : Service) :
    (s.select q).bind (Service.select p) = s.select fun tag op => p tag op && q tag op := by
  have hboth : (s.operations.filter (q s.tag)).filter (p s.tag) =
      s.operations.filter fun op => p s.tag op && q s.tag op := by
    rw [List.filter_filter]
  rw [select, select]
  split
  · case isTrue hempty =>
    rw [List.isEmpty_iff.mp hempty, List.filter_nil] at hboth
    rw [Option.bind_none, ← hboth]
    rfl
  · rw [Option.bind_some, select, hboth]

/-- Selecting twice is selecting by both predicates. -/
theorem selectOperations_selectOperations (services : List Service) :
    selectOperations p (selectOperations q services) =
      selectOperations (fun tag op => p tag op && q tag op) services := by
  rw [selectOperations, selectOperations, List.filterMap_filterMap, selectOperations]
  congr 1
  funext s
  exact s.bind_select

theorem Service.partOf_of_mem_select {s part : Service} (h : part ∈ s.select p) :
    part.PartOf s := by
  rw [select] at h
  split at h
  · cases h
  · cases h
    exact ⟨rfl, List.filter_sublist⟩

/-- What is selected are parts of the services, in their order. -/
theorem selectOperations_partOf (p : String → Operation → Bool) (services : List Service) :
    List.SublistForall₂ Service.PartOf (selectOperations p services) services := by
  induction services with
  | nil => exact .nil
  | cons s services ih =>
    rw [selectOperations, List.filterMap_cons]
    split
    · exact .cons_right ih
    · case h_2 part hpart => exact .cons (Service.partOf_of_mem_select hpart) ih

/-- The operations of parts of services are some of the operations of the services. -/
theorem flatMap_operations_sublist {parts wholes : List Service}
    (h : List.SublistForall₂ Service.PartOf parts wholes) :
    (parts.flatMap (·.operations)).Sublist (wholes.flatMap (·.operations)) := by
  induction h with
  | nil => exact List.nil_sublist _
  | cons hpart _ ih => exact hpart.operations.append ih
  | cons_right _ ih => exact List.sublist_append_of_sublist_right ih

/-! ## Filters -/

namespace TagFilter

/-- Whether an operation of the service of a tag passes. -/
def passes (f : TagFilter) (tag : String) (op : Operation) : Bool :=
  match f.mode with
  | .service => f.accepts [tag]
  | .operation => f.accepts op.effectiveTags

theorem keep_eq_filter (f : TagFilter) (s : Service) :
    f.keep s = s.operations.filter (f.passes s.tag) := by
  cases hmode : f.mode with
  | service =>
    have hpasses : f.passes s.tag = fun _ => f.accepts [s.tag] := by
      funext op
      rw [passes, hmode]
    rw [keep, hmode, hpasses]
    cases f.accepts [s.tag] <;> simp
  | operation =>
    have hpasses : f.passes s.tag = fun op => f.accepts op.effectiveTags := by
      funext op
      rw [passes, hmode]
    rw [keep, hmode, hpasses]

/-- A filter selects the operations that pass. -/
theorem apply_eq_select (f : TagFilter) (services : List Service) :
    f.apply services = selectOperations f.passes services := by
  rw [apply, selectOperations]
  congr 1
  funext s
  rw [keep_eq_filter, Service.select]

/-- Two filters leave what passes both. -/
theorem apply_apply (f g : TagFilter) (services : List Service) :
    f.apply (g.apply services) =
      selectOperations (fun tag op => f.passes tag op && g.passes tag op) services := by
  rw [apply_eq_select, apply_eq_select, selectOperations_selectOperations]

theorem apply_comm (f g : TagFilter) (services : List Service) :
    f.apply (g.apply services) = g.apply (f.apply services) := by
  rw [apply_apply, apply_apply]
  simp only [Bool.and_comm]

theorem apply_self (f : TagFilter) (services : List Service) :
    f.apply (f.apply services) = f.apply services := by
  rw [apply_apply, apply_eq_select]
  simp only [Bool.and_self]

/-- What a filter leaves are parts of the services, in their order. -/
theorem apply_partOf (f : TagFilter) (services : List Service) :
    List.SublistForall₂ Service.PartOf (f.apply services) services := by
  rw [apply_eq_select]
  exact selectOperations_partOf _ _

/-! ## Tightening a filter -/

/-- `f.Tightens g` says that `g` is made from `f` in a way that lets no more pass: by enlarging the
exclusions, by including something where everything was included, or by reducing the inclusions
to some of them. -/
inductive Tightens : TagFilter → TagFilter → Prop
  | exclude {inc exc more : List TagMatch} {mode : FilterMode} (h : exc ⊆ more) :
      Tightens ⟨inc, exc, mode⟩ ⟨inc, more, mode⟩
  | restrict {inc exc : List TagMatch} {mode : FilterMode} :
      Tightens ⟨[], exc, mode⟩ ⟨inc, exc, mode⟩
  | reduce {inc more exc : List TagMatch} {mode : FilterMode} (hne : inc ≠ []) (h : inc ⊆ more) :
      Tightens ⟨more, exc, mode⟩ ⟨inc, exc, mode⟩

theorem finds_of_subset {some more : List TagMatch} (h : some ⊆ more) {tags : List String}
    (hfinds : finds some tags = true) : finds more tags = true := by
  obtain ⟨tag, htag, hany⟩ := List.any_eq_true.mp hfinds
  obtain ⟨p, hp, hmatch⟩ := List.any_eq_true.mp hany
  exact List.any_eq_true.mpr ⟨tag, htag, List.any_eq_true.mpr ⟨p, h hp, hmatch⟩⟩

variable {f g : TagFilter}

theorem Tightens.accepts (h : f.Tightens g) {tags : List String} (hg : g.accepts tags = true) :
    f.accepts tags = true := by
  obtain ⟨hinc, hexc⟩ := Bool.and_eq_true_iff.mp hg
  refine Bool.and_eq_true_iff.mpr ⟨?_, ?_⟩
  · cases h with
    | exclude => exact hinc
    | restrict => rfl
    | reduce hne hsub =>
      have hfinds := (Bool.or_eq_true_iff.mp hinc).resolve_left (mt List.isEmpty_iff.mp hne)
      exact Bool.or_eq_true_iff.mpr (Or.inr (finds_of_subset hsub hfinds))
  · cases h with
    | exclude hsub =>
      rw [Bool.not_eq_true'] at hexc ⊢
      exact Bool.eq_false_iff.mpr fun hfinds =>
        Bool.eq_false_iff.mp hexc (finds_of_subset hsub hfinds)
    | restrict => exact hexc
    | reduce => exact hexc

/-- What passes the tightened filter passes the filter. -/
theorem Tightens.passes (h : f.Tightens g) {tag : String} {op : Operation}
    (hg : g.passes tag op = true) : f.passes tag op = true := by
  have hmode : f.mode = g.mode := by cases h <;> rfl
  unfold TagFilter.passes at hg ⊢
  rw [hmode]
  split at hg <;> exact h.accepts hg

/-- After a filter has been applied, the tightened one finds the same. -/
theorem Tightens.apply_apply (h : f.Tightens g) (services : List Service) :
    g.apply (f.apply services) = g.apply services := by
  rw [TagFilter.apply_apply, apply_eq_select]
  congr 1
  funext tag op
  cases hg : g.passes tag op with
  | false => rfl
  | true => rw [h.passes hg, Bool.and_self]

end TagFilter
end ApiCompiler
