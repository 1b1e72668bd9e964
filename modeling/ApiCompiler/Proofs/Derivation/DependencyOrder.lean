import ApiCompiler.Proofs.Derivation.Definitions
import ApiCompiler.Proofs.Hoisting.Parts
import Mathlib.Logic.Relation

/-!
# Models after what they refer to

`DependenciesFirst models` says that every reference of a model names a model that stands before
it.  Appending a model that refers to what is there keeps this order.  Adding it to a list with one
definition for each name does as well, although it may then take the place of an earlier model:
only an enumeration does, and an enumeration refers to nothing.  So the order survives
deduplication, and dropping names to which nothing that stays refers.

Where dependencies come first there are no cycles: looking up the name of a reference leads to a
model that stands before, so no chain of references leads back to where it started.
-/

namespace ApiCompiler

/-- Every name that a model refers to is the name of a model before it. -/
def DependenciesFirst (models : List Model) : Prop :=
  ∀ front m rest, models = front ++ m :: rest → ∀ n, m.shape.RefersTo n →
    n ∈ front.map (·.name)

/-- One model refers to the other, looked up in a list. -/
def Follows (models : List Model) (m d : Model) : Prop :=
  m ∈ models ∧ ∃ n, m.shape.RefersTo n ∧ models.find? (fun d => d.name = n) = some d

/-- No chain of references leads back to the model it starts from. -/
def Acyclic (models : List Model) : Prop := ∀ m, ¬ Relation.TransGen (Follows models) m m

namespace DependenciesFirst

variable {models ds : List Model} {m : Model}

theorem nil : DependenciesFirst [] := by
  intro front m rest h
  cases front <;> cases h

/-- A model that refers to what is there can be appended. -/
theorem append_singleton (h : DependenciesFirst models)
    (hm : ∀ n, m.shape.RefersTo n → n ∈ models.map (·.name)) :
    DependenciesFirst (models ++ [m]) := by
  intro front a rest heq n hn
  rcases List.eq_nil_or_concat rest with rfl | ⟨rest', b, rfl⟩
  · obtain ⟨rfl, hlast⟩ := List.append_inj' heq rfl
    obtain rfl := List.singleton_inj.mp hlast
    exact hm n hn
  · rw [List.concat_eq_append, ← List.cons_append, ← List.append_assoc] at heq
    obtain ⟨rfl, -⟩ := List.append_inj' heq rfl
    exact h front a rest' rfl n hn

/-- A model can be replaced by one of the same name that refers to nothing. -/
theorem replace {front rest : List Model} {d e : Model}
    (h : DependenciesFirst (front ++ d :: rest)) (hname : e.name = d.name)
    (he : ∀ n, ¬ e.shape.RefersTo n) : DependenciesFirst (front ++ e :: rest) := by
  intro before a after heq n hn
  rcases List.append_eq_append_iff.mp heq with ⟨t, rfl, htail⟩ | ⟨t, rfl, htail⟩
  · -- the model stands at the replaced place or after it
    rcases List.cons_eq_append_iff.mp htail with ⟨rfl, htail⟩ | ⟨t', rfl, rfl⟩
    · cases htail
      exact absurd hn (he n)
    · have hmem := h (front ++ d :: t') a after (by simp) n hn
      simpa [hname] using hmem
  · rcases List.cons_eq_append_iff.mp htail with ⟨rfl, htail⟩ | ⟨t', rfl, rfl⟩
    · cases htail
      exact absurd hn (he n)
    · exact h before a (t' ++ d :: rest) (by simp) n hn

end DependenciesFirst

/-! ## Deduplication -/

/-- A model of a known name changes nothing but the place of this name. -/
theorem define_of_mem {m : Model} {ds : List Model} (h : m.name ∈ ds.map (·.name)) :
    ∃ front d rest, ds = front ++ d :: rest ∧ d.name = m.name ∧
      define m ds = front ++ (if m.supersedes d then m else d) :: rest := by
  induction ds with
  | nil => cases h
  | cons d ds ih =>
    by_cases hd : d.name = m.name
    · exact ⟨[], d, ds, rfl, hd, by rw [define, if_pos hd, List.nil_append]⟩
    · rw [List.map_cons, List.mem_cons] at h
      obtain ⟨front, e, rest, rfl, he, hdefine⟩ := ih (h.resolve_left fun hm => hd hm.symm)
      exact ⟨d :: front, e, rest, rfl, he, by rw [define, if_neg hd, hdefine, List.cons_append]⟩

namespace DependenciesFirst

variable {models ds : List Model} {m : Model}

/-- Adding a model that refers to what is there keeps dependencies first. -/
theorem define (h : DependenciesFirst ds)
    (hm : ∀ n, m.shape.RefersTo n → n ∈ ds.map (·.name)) :
    DependenciesFirst (ApiCompiler.define m ds) := by
  by_cases hknown : m.name ∈ ds.map (·.name)
  · obtain ⟨front, d, rest, rfl, hname, hdefine⟩ := define_of_mem hknown
    rw [hdefine]
    cases hsupersedes : m.supersedes d with
    | true =>
      -- what takes the place of an earlier model is an enumeration
      rw [if_pos rfl]
      rw [Model.supersedes, Bool.and_eq_true] at hsupersedes
      exact h.replace hname.symm (Shape.not_refersTo_of_isEnum hsupersedes.1)
    | false =>
      rw [if_neg Bool.false_ne_true]
      exact h
  · rw [define_of_new hknown]
    exact h.append_singleton hm

/-- Deduplication keeps dependencies first. -/
theorem definitions (h : DependenciesFirst models) :
    DependenciesFirst (ApiCompiler.definitions models) := by
  induction models using List.reverseRecOn with
  | nil => exact nil
  | append_singleton models m ih =>
    have hfront : DependenciesFirst models := by
      rintro front a rest rfl
      exact h front a (rest ++ [m]) (by simp)
    rw [definitions_append_singleton]
    refine (ih hfront).define fun n hn => ?_
    rw [mem_names_definitions]
    exact h models m [] rfl n hn

/-- Dropping names keeps dependencies first, if nothing that stays refers to them. -/
theorem ofNames {p : String → Bool} (h : DependenciesFirst models)
    (hp : ∀ m ∈ models, p m.name = true → ∀ n, m.shape.RefersTo n → p n = true) :
    DependenciesFirst (ApiCompiler.ofNames p models) := by
  intro front m rest heq n hn
  obtain ⟨before, tail, rfl, rfl, htail⟩ := List.filter_eq_append_iff.mp heq
  obtain ⟨dropped, after, rfl, hdropped, hm, -⟩ := List.filter_eq_cons_iff.mp htail
  have hmem := h (before ++ dropped) m after (by simp) n hn
  obtain ⟨d, hd, rfl⟩ := List.mem_map.mp hmem
  have hkept : p d.name = true := hp m (by simp) hm _ hn
  rcases List.mem_append.mp hd with hd | hd
  · exact List.mem_map.mpr ⟨d, List.mem_filter.mpr ⟨hd, hkept⟩, rfl⟩
  · exact absurd hkept (hdropped d hd)

end DependenciesFirst

/-! ## Chains of references -/

/-- The first model stands after the second one wherever it stands. -/
def StandsAfter (models : List Model) (m d : Model) : Prop :=
  ∃ front rest, models = front ++ m :: rest ∧ m ∉ front ∧ d ∈ front

theorem StandsAfter.trans {models : List Model} {a b c : Model} (hab : StandsAfter models a b)
    (hbc : StandsAfter models b c) : StandsAfter models a c := by
  obtain ⟨front, rest, rfl, ha, hb⟩ := hab
  obtain ⟨front', rest', heq, hb', hc⟩ := hbc
  refine ⟨front, rest, rfl, ha, ?_⟩
  rcases List.append_eq_append_iff.mp heq with ⟨t, rfl, -⟩ | ⟨t, rfl, -⟩
  · exact absurd (List.mem_append_left t hb) hb'
  · exact List.mem_append_left t hc

theorem not_standsAfter_self {models : List Model} {m : Model} : ¬ StandsAfter models m m := by
  rintro ⟨front, rest, -, hnot, hmem⟩
  exact hnot hmem

/-- Looking up a reference leads to a model that stands before. -/
theorem DependenciesFirst.standsAfter {models : List Model} (h : DependenciesFirst models)
    {m d : Model} (hmd : Follows models m d) : StandsAfter models m d := by
  obtain ⟨hm, n, hn, hfound⟩ := hmd
  obtain ⟨front, rest, rfl, hfirst⟩ := List.eq_append_cons_of_mem hm
  refine ⟨front, rest, rfl, hfirst, ?_⟩
  obtain ⟨e, he, rfl⟩ := List.mem_map.mp (h front m rest rfl n hn)
  rw [List.find?_append, Option.or_eq_some_iff] at hfound
  rcases hfound with hfound | ⟨hnone, -⟩
  · exact List.mem_of_find?_eq_some hfound
  · exact absurd (decide_eq_true rfl) (List.find?_eq_none.mp hnone e he)

/-- Where dependencies come first there are no cycles. -/
theorem DependenciesFirst.acyclic {models : List Model} (h : DependenciesFirst models) :
    Acyclic models := by
  have hchain : ∀ a b, Relation.TransGen (Follows models) a b → StandsAfter models a b := by
    intro a b hab
    induction hab with
    | single hab => exact h.standsAfter hab
    | tail _ hbc ih => exact ih.trans (h.standsAfter hbc)
  exact fun m hm => not_standsAfter_self (hchain m m hm)

end ApiCompiler
