import ApiCompiler.Proofs.Reference.Chains
import Mathlib.Logic.Relation

/-!
# Where references lead to

What a reference is good for can be said without an algorithm.  `Section.Looks` is one lookup: a
reference is replaced by the entry that it points at.  `Section.ComesTo` is any number of them, and
`Section.Repeats` says that the texts of the references repeat.  None of the three has a bound or
remembers what it has seen.

The program does remember the texts that it has followed, and `Section.Walks` is what it does, with
the lookups counted.  `resolve_exact` joins the two: a walk ends after at most one lookup more than
the section has entries, and how it ends is what the references say.

A chain goes one way only.  So it cannot both come back to a text and come to an end
(`Repeats.looks`), though two spellings of one name are two texts: a loop is entered anew for each
spelling, but only once.
-/

namespace ApiCompiler

/-- The wording of a fault says whether it is a circle. -/
theorem ReferenceFault.message_eq_circular_iff {fault : ReferenceFault} :
    fault.message = "Circular reference" ↔ fault = .circular := by
  -- the second letter tells the wordings apart
  have hstart : ∀ front back : String, front.toList[1]? ≠ some 'i' → 1 < front.length →
      front ++ back ≠ "Circular reference" := by
    intro front back hfront hlength h
    have hsecond : (front ++ back).toList[1]? = some 'i' := by rw [h]; rfl
    rw [String.toList_append, List.getElem?_append_left hlength] at hsecond
    exact hfront hsecond
  cases fault with
  | outsideDocument => exact iff_of_false (hstart _ _ (by decide) (by decide)) (by simp)
  | outsideSection path => exact iff_of_false (hstart _ _ (by decide) (by decide)) (by simp)
  | missing name available =>
    refine iff_of_false ?_ (by simp)
    show "Component '" ++ name ++ "' not found" ++ _ ≠ _
    rw [String.append_assoc, String.append_assoc]
    exact hstart _ _ (by decide) (by decide)
  | circular => exact iff_of_true rfl rfl

namespace Section

open Relation (ReflTransGen TransGen)

variable {α : Type}

/-- One lookup. -/
def Looks (s : Section α) (node next : OrReference α) : Prop :=
  ∃ r, node = .reference r ∧ s.find r.target = .ok next

/-- Following one reference after the other leads from a node to another one. -/
def ComesTo (s : Section α) : OrReference α → OrReference α → Prop := ReflTransGen s.Looks

/-- Following the references from a node, a text is met again. -/
def Repeats (s : Section α) (node : OrReference α) : Prop :=
  ∃ r r' : Reference, s.ComesTo node (.reference r) ∧
    TransGen s.Looks (.reference r) (.reference r') ∧ r'.target = r.target

/-- References are followed until an inline definition, a text that was followed before, or a
target without an answer.  `seen` are the texts that were followed, and the number counts the
lookups that are made. -/
inductive Walks (s : Section α) :
    List String → OrReference α → Nat → Except CompileError α → Prop
  | inline {seen : List String} {a : α} : Walks s seen (.inline a) 0 (.ok a)
  | circular {seen : List String} {r : Reference} (hseen : r.target ∈ seen) :
      Walks s seen (.reference r) 0 (.error (.reference r.target .circular))
  | refused {seen : List String} {r : Reference} {fault : ReferenceFault}
      (hnew : r.target ∉ seen) (hfind : s.find r.target = .error fault) :
      Walks s seen (.reference r) 1 (.error (.reference r.target fault))
  | looked {seen : List String} {r : Reference} {next : OrReference α} {lookups : Nat}
      {result : Except CompileError α} (hnew : r.target ∉ seen)
      (hfind : s.find r.target = .ok next)
      (rest : Walks s (r.target :: seen) next lookups result) :
      Walks s seen (.reference r) (lookups + 1) result

variable {s : Section α} {node n m z : OrReference α} {seen : List String} {t : String}

/-! ## Chains go one way -/

theorem looks_reference {r : Reference} :
    s.Looks (.reference r) n ↔ s.find r.target = .ok n := by
  constructor
  · rintro ⟨r', hr, hfind⟩
    cases hr
    exact hfind
  · exact fun hfind => ⟨r, rfl, hfind⟩

theorem not_looks_inline {a : α} : ¬ s.Looks (.inline a) n := by
  rintro ⟨r, hr, -⟩
  cases hr

theorem looks_rightUnique (s : Section α) : Relator.RightUnique s.Looks := by
  rintro n a b ⟨r, rfl, ha⟩ hb
  rw [looks_reference, ha] at hb
  exact Except.ok.inj hb

/-- From where a chain ends there is no way back. -/
theorem ComesTo.not_cycle (h : s.ComesTo n z) (hend : ∀ next, ¬ s.Looks z next) :
    ¬ TransGen s.Looks n n := by
  induction h using ReflTransGen.head_induction_on with
  | refl =>
    intro hcycle
    obtain ⟨next, hlooks, -⟩ := TransGen.head'_iff.mp hcycle
    exact hend next hlooks
  | head hlooks _ ih =>
    -- the cycle goes through the next node as well
    intro hcycle
    obtain ⟨next, hlooks', hback⟩ := TransGen.head'_iff.mp hcycle
    obtain rfl := s.looks_rightUnique hlooks hlooks'
    exact ih (TransGen.tail' hback hlooks)

/-- A chain in which a text repeats never ends. -/
theorem Repeats.looks (h : s.Repeats node) (hz : s.ComesTo node z) : ∃ next, s.Looks z next := by
  obtain ⟨r, r', hr, hloop, htarget⟩ := h
  by_contra hend
  rw [not_exists] at hend
  obtain ⟨m, hm, hback⟩ := TransGen.head'_iff.mp hloop
  have hreenter : s.Looks (.reference r') m := by
    rw [looks_reference] at hm ⊢
    rwa [htarget]
  have hcycle : TransGen s.Looks m m := TransGen.tail' hback hreenter
  rcases ReflTransGen.total_of_right_unique s.looks_rightUnique (hr.tail hm) hz with hmz | hzm
  · exact ComesTo.not_cycle hmz hend hcycle
  · rcases hzm.cases_head with rfl | ⟨next, hlooks, -⟩
    · obtain ⟨next, hlooks, -⟩ := TransGen.head'_iff.mp hcycle
      exact hend next hlooks
    · exact hend next hlooks

/-! ## Chains with and without memory -/

theorem Leads.comesTo (h : s.Leads node seen n) : s.ComesTo node n := by
  induction h with
  | here => exact .refl
  | step _ _ hfind ih => exact ih.tail (looks_reference.mpr hfind)

/-- What was followed was a reference, from which the chain went on. -/
theorem Leads.exists_reference (h : s.Leads node seen n) (ht : t ∈ seen) :
    ∃ r : Reference, r.target = t ∧ s.ComesTo node (.reference r) ∧
      TransGen s.Looks (.reference r) n := by
  induction h with
  | here => cases ht
  | @step seen r next hlead _ hfind ih =>
    have hlooks : s.Looks (.reference r) next := looks_reference.mpr hfind
    rcases List.mem_cons.mp ht with rfl | ht
    · exact ⟨r, rfl, hlead.comesTo, .single hlooks⟩
    · obtain ⟨r₀, htarget, hcomes, hloop⟩ := ih ht
      exact ⟨r₀, htarget, hcomes, hloop.tail hlooks⟩

/-- The entry of a target that was followed has been come to. -/
theorem Leads.of_mem (h : s.Leads node seen n) (ht : t ∈ seen) (hfind : s.find t = .ok m) :
    ∃ seen', s.Leads node seen' m := by
  induction h with
  | here => cases ht
  | @step seen r next hlead hnew hfind' ih =>
    rcases List.mem_cons.mp ht with rfl | ht
    · obtain rfl := Except.ok.inj (hfind'.symm.trans hfind)
      exact ⟨_, .step hlead hnew hfind'⟩
    · exact ih ht

/-- Whatever a chain comes to, it comes to without following a text twice. -/
theorem ComesTo.exists_leads (h : s.ComesTo node n) : ∃ seen, s.Leads node seen n := by
  induction h with
  | refl => exact ⟨[], .here⟩
  | tail _ hlooks ih =>
    obtain ⟨r, rfl, hfind⟩ := hlooks
    obtain ⟨seen, hlead⟩ := ih
    by_cases hseen : r.target ∈ seen
    · exact hlead.of_mem hseen hfind
    · exact ⟨_, .step hlead hseen hfind⟩

/-! ## Walks -/

/-- A walk that goes on from a place of the chain has made the lookups up to there before. -/
theorem Leads.walks {lookups : Nat} {result : Except CompileError α}
    (h : s.Leads node seen n) (hwalk : s.Walks seen n lookups result) :
    s.Walks [] node (lookups + seen.length) result := by
  induction h generalizing lookups with
  | here => exact hwalk
  | @step seen r next _ hnew hfind ih =>
    have hwalk' := ih (.looked hnew hfind hwalk)
    rwa [Nat.add_right_comm] at hwalk'

/-- A walk ends as the node is resolved, after at most one lookup more than there are entries. -/
theorem exists_walks (s : Section α) (node : OrReference α) :
    ∃ lookups ≤ s.entries.length + 1, s.Walks [] node lookups (s.resolve node) := by
  have hhere : s.Leads node [] node := .here
  rcases hhere.ends with ⟨seen, a, hlead⟩ | ⟨e, hbreaks⟩
  · rw [hlead.resolve_ok]
    have hle := hlead.length_le
    exact ⟨0 + seen.length, by omega, hlead.walks .inline⟩
  · rw [hbreaks.resolve_error]
    cases hbreaks with
    | @circular seen r hlead hseen =>
      have hle := hlead.length_le
      exact ⟨0 + seen.length, by omega, hlead.walks (.circular hseen)⟩
    | @fault seen r fault hlead hnew hfind =>
      have hle := hlead.length_le_of_new hnew
      exact ⟨1 + seen.length, by omega, hlead.walks (.refused hnew hfind)⟩

/-! ## How a walk ends -/

theorem resolve_eq_ok_iff_comesTo {a : α} :
    s.resolve node = .ok a ↔ s.ComesTo node (.inline a) := by
  rw [resolve_eq_ok_iff]
  constructor
  · rintro ⟨seen, hlead⟩
    exact hlead.comesTo
  · exact fun h => h.exists_leads

/-- A walk is circular exactly if all lookups succeed and a text repeats. -/
theorem exists_circular_iff :
    (∃ t, s.resolve node = .error (.reference t .circular)) ↔
      (∀ r, s.ComesTo node (.reference r) → ∃ next, s.find r.target = .ok next) ∧
        s.Repeats node := by
  constructor
  · rintro ⟨t, h⟩
    have hrepeats : s.Repeats node := by
      cases resolve_eq_error_iff.mp h with
      | circular hlead hseen =>
        obtain ⟨r, htarget, hcomes, hloop⟩ := hlead.exists_reference hseen
        exact ⟨r, _, hcomes, hloop, htarget.symm⟩
      | fault hlead hnew hfind => cases find_eq_error_iff.mp hfind
    refine ⟨fun r hr => ?_, hrepeats⟩
    obtain ⟨next, hlooks⟩ := hrepeats.looks hr
    exact ⟨next, looks_reference.mp hlooks⟩
  · rintro ⟨hanswered, hrepeats⟩
    have hhere : s.Leads node [] node := .here
    rcases hhere.ends with ⟨seen, a, hlead⟩ | ⟨e, hbreaks⟩
    · obtain ⟨next, hlooks⟩ := hrepeats.looks hlead.comesTo
      exact absurd hlooks not_looks_inline
    · cases hbreaks with
      | circular hlead hseen => exact ⟨_, (Breaks.circular hlead hseen).resolve_error⟩
      | fault hlead _ hfind =>
        obtain ⟨next, hnext⟩ := hanswered _ hlead.comesTo
        rw [hfind] at hnext
        cases hnext

/-- A walk ends with another fault exactly if it comes to a reference that is refused with it. -/
theorem resolve_eq_fault_iff {fault : ReferenceFault} :
    (s.resolve node = .error (.reference t fault) ∧ fault ≠ .circular) ↔
      ∃ r, s.ComesTo node (.reference r) ∧ r.target = t ∧ s.Refuses t fault := by
  constructor
  · rintro ⟨h, hfault⟩
    cases resolve_eq_error_iff.mp h with
    | circular hlead hseen => exact absurd rfl hfault
    | @fault seen r fault hlead hnew hfind =>
      exact ⟨r, hlead.comesTo, rfl, find_eq_error_iff.mp hfind⟩
  · rintro ⟨r, hcomes, rfl, hrefuses⟩
    have hfind := find_eq_error_iff.mpr hrefuses
    obtain ⟨seen, hlead⟩ := hcomes.exists_leads
    have hnew : r.target ∉ seen := by
      intro hseen
      obtain ⟨r₀, htarget, -, hloop⟩ := hlead.exists_reference hseen
      obtain ⟨next, hlooks, -⟩ := TransGen.head'_iff.mp hloop
      rw [looks_reference, htarget, hfind] at hlooks
      cases hlooks
    refine ⟨(Breaks.fault hlead hnew hfind).resolve_error, ?_⟩
    rintro rfl
    cases hrefuses

/-- **References are followed exactly.**  From any node, following references through a section takes
at most one lookup more than the section has entries.  It returns a definition exactly if the
references lead to it, and fails for a reference in every other case.  The reason is that the
references go round in a circle exactly if every lookup succeeds and some text is met again;
otherwise the error names the target at which the lookups end, and why it has no answer. -/
theorem resolve_exact (s : Section α) (node : OrReference α) :
    (∃ lookups ≤ s.entries.length + 1, s.Walks [] node lookups (s.resolve node)) ∧
      (∀ a, s.resolve node = .ok a ↔ s.ComesTo node (.inline a)) ∧
      ((∃ target fault, s.resolve node = .error (.reference target fault)) ↔
        ¬ ∃ a, s.ComesTo node (.inline a)) ∧
      ((∃ target fault, s.resolve node = .error (.reference target fault) ∧
          fault.message = "Circular reference") ↔
        (∀ r, s.ComesTo node (.reference r) → ∃ next, s.find r.target = .ok next) ∧
          s.Repeats node) ∧
      ∀ target fault, (s.resolve node = .error (.reference target fault) ∧
          fault.message ≠ "Circular reference") ↔
        ∃ r, s.ComesTo node (.reference r) ∧ r.target = target ∧ s.Refuses target fault := by
  refine ⟨s.exists_walks node, fun a => resolve_eq_ok_iff_comesTo, ?_, ?_, fun target fault => ?_⟩
  · constructor
    · rintro ⟨target, fault, h⟩ ⟨a, ha⟩
      rw [resolve_eq_ok_iff_comesTo.mpr ha] at h
      cases h
    · intro hnone
      have hhere : s.Leads node [] node := .here
      rcases hhere.ends with ⟨seen, a, hlead⟩ | ⟨e, hbreaks⟩
      · exact absurd ⟨a, hlead.comesTo⟩ hnone
      · have herror := hbreaks.resolve_error
        cases hbreaks with
        | circular => exact ⟨_, _, herror⟩
        | fault => exact ⟨_, _, herror⟩
  · simp only [ReferenceFault.message_eq_circular_iff, exists_eq_right, exists_circular_iff]
  · rw [Ne, ReferenceFault.message_eq_circular_iff]
    exact resolve_eq_fault_iff

/-- An entry can be looked up once under each of its spellings, so the bound is reached. -/
example :
    resolve ⟨"parameters", [("a/b", .reference ⟨"#/components/parameters/a~1b", none, none, []⟩)]⟩
        (.reference ⟨"#/components/parameters/a/b", none, none, []⟩) =
      (.error (.reference "#/components/parameters/a~1b" .circular) :
        Except CompileError Document.Parameter) :=
  rfl

end Section
end ApiCompiler
