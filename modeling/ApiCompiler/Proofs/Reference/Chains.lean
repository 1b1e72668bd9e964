import ApiCompiler.Proofs.Maps
import ApiCompiler.Reference.Resolution
import Mathlib.Data.List.Perm.Subperm

/-!
# Chains of references

`Section.Leads` follows a chain of references one lookup after the other and keeps the targets it has
looked up, none of them twice.  `Section.Breaks` says where such a chain can go no further: at a
reference that it has followed before, or at one that the section does not answer.

`Section.follow` walks the same chain with a bound.  The bound is never felt: all targets after the
first one stand in entries of the section, so a chain without repetition looks up at most one target
more than there are entries (`Leads.length_le`).  Hence resolving a node fails exactly where its
chain breaks (`resolve_eq_error_iff`) and returns exactly what its chain leads to
(`resolve_eq_ok_iff`).
-/

namespace ApiCompiler
namespace Section

variable {α : Type} {s : Section α} {node n : OrReference α} {seen : List String}

/-- The chain of references from a node leads to another node; `seen` are the targets looked up on
the way, the last one first. -/
inductive Leads (s : Section α) (node : OrReference α) : List String → OrReference α → Prop
  | here : Leads s node [] node
  | step {seen : List String} {r : Reference} {next : OrReference α}
      (h : Leads s node seen (.reference r)) (hnew : r.target ∉ seen)
      (hfind : s.find r.target = .ok next) : Leads s node (r.target :: seen) next

/-- The chain of references from a node breaks: it comes back to a reference, or to one that the
section does not answer. -/
inductive Breaks (s : Section α) (node : OrReference α) : CompileError → Prop
  | circular {seen : List String} {r : Reference} (h : s.Leads node seen (.reference r))
      (hseen : r.target ∈ seen) : Breaks s node (.reference r.target .circular)
  | fault {seen : List String} {r : Reference} {fault : ReferenceFault}
      (h : s.Leads node seen (.reference r)) (hnew : r.target ∉ seen)
      (hfind : s.find r.target = .error fault) : Breaks s node (.reference r.target fault)

/-! ## Looking up -/

theorem afterStart?_eq_some {start cs rest : List Char} :
    afterStart? start cs = some rest ↔ cs = start ++ rest := by
  induction start generalizing cs with
  | nil => simp [afterStart?, eq_comm]
  | cons a as ih =>
    cases cs with
    | nil => simp [afterStart?]
    | cons c cs =>
      rw [afterStart?, List.cons_append, List.cons.injEq]
      by_cases hac : a = c
      · rw [if_pos hac, ih]
        simp [hac]
      · rw [if_neg hac]
        simp [Ne.symm hac]

theorem afterStart?_eq_none {start cs : List Char} :
    afterStart? start cs = none ↔ ¬ start <+: cs := by
  constructor
  · rintro h ⟨rest, hrest⟩
    rw [afterStart?_eq_some.mpr hrest.symm] at h
    cases h
  · intro h
    cases hafter : afterStart? start cs with
    | none => rfl
    | some rest => exact absurd ⟨rest, (afterStart?_eq_some.mp hafter).symm⟩ h

/-- What comes behind the path of the section names an entry, or the section has none for it. -/
theorem find_behind_path {target : String} {segment : List Char}
    (h : target.toList = s.path.toList ++ segment) :
    s.find target =
      match lookup? (String.ofList (Reference.unescape segment)) s.entries with
      | some entry => .ok entry
      | none => .error (.missing (String.ofList (Reference.unescape segment)) s.available) := by
  have hpath : s.path.toList = "#/".toList ++ ("components/".toList ++ s.name.toList ++ ['/']) := by
    simp [path, toString]
  have hdocument : afterStart? "#/".toList target.toList =
      some ("components/".toList ++ s.name.toList ++ ['/'] ++ segment) := by
    rw [afterStart?_eq_some, h, hpath, List.append_assoc]
  rewrite [find, hdocument, afterStart?_eq_some.mpr h]
  rfl

/-- A target is answered exactly if it starts with the path of the section and what follows, with
its escapes undone, names an entry. -/
theorem find_eq_ok_iff {target : String} {next : OrReference α} :
    s.find target = .ok next ↔ ∃ segment, target.toList = s.path.toList ++ segment ∧
      lookup? (String.ofList (Reference.unescape segment)) s.entries = some next := by
  constructor
  · intro h
    unfold find at h
    split at h
    · cases h
    · cases h
    · rename_i segment _ hsegment
      dsimp only at h
      split at h
      · rename_i hlookup
        cases h
        exact ⟨_, afterStart?_eq_some.mp hsegment, hlookup⟩
      · cases h
  · rintro ⟨segment, htarget, hlookup⟩
    rw [find_behind_path htarget, hlookup]

/-- Why the section does not answer a target: it leads out of the document, it leads to another place
in the document, or there is no entry of the name behind the path. -/
inductive Refuses (s : Section α) (target : String) : ReferenceFault → Prop
  | outsideDocument (h : ¬ "#/".toList <+: target.toList) : Refuses s target .outsideDocument
  | outsideSection (hdocument : "#/".toList <+: target.toList)
      (h : ¬ s.path.toList <+: target.toList) : Refuses s target (.outsideSection s.path)
  | missing {segment : List Char} (hsegment : target.toList = s.path.toList ++ segment)
      (h : String.ofList (Reference.unescape segment) ∉ s.entries.map (·.1)) :
      Refuses s target (.missing (String.ofList (Reference.unescape segment)) s.available)

/-- A target is not answered exactly if there is a reason. -/
theorem find_eq_error_iff {target : String} {fault : ReferenceFault} :
    s.find target = .error fault ↔ s.Refuses target fault := by
  constructor
  · intro h
    unfold find at h
    split at h
    · rename_i hdocument
      cases h
      exact .outsideDocument (afterStart?_eq_none.mp hdocument)
    · rename_i hdocument hsection
      cases h
      refine .outsideSection ?_ (afterStart?_eq_none.mp hsection)
      exact ⟨_, (afterStart?_eq_some.mp hdocument).symm⟩
    · rename_i segment _ hsegment
      dsimp only at h
      split at h
      · cases h
      · rename_i hlookup
        cases h
        exact .missing (afterStart?_eq_some.mp hsegment) (lookup?_eq_none.mp hlookup)
  · intro h
    cases h with
    | outsideDocument h => rw [find, afterStart?_eq_none.mpr h]
    | outsideSection hdocument h =>
      obtain ⟨rest, hrest⟩ := hdocument
      rw [find, afterStart?_eq_some.mpr hrest.symm, afterStart?_eq_none.mpr h]
    | missing hsegment h => rw [find_behind_path hsegment, lookup?_eq_none.mpr h]

/-- What is found stands in the section. -/
theorem mem_entries_of_find {target : String} {next : OrReference α}
    (h : s.find target = .ok next) : next ∈ s.entries.map (·.2) := by
  obtain ⟨segment, -, hlookup⟩ := find_eq_ok_iff.mp h
  exact List.mem_map.mpr ⟨_, mem_of_lookup? hlookup, rfl⟩

/-! ## How long a chain can be -/

/-- The targets of the references that stand in the section. -/
def targets (s : Section α) : List String :=
  s.entries.filterMap fun e => match e.2 with
    | .reference r => some r.target
    | .inline _ => none

theorem length_targets_le (s : Section α) : s.targets.length ≤ s.entries.length :=
  List.length_filterMap_le _ _

theorem mem_targets {r : Reference} (h : .reference r ∈ s.entries.map (·.2)) :
    r.target ∈ s.targets := by
  obtain ⟨e, he, hnode⟩ := List.mem_map.mp h
  exact List.mem_filterMap.mpr ⟨e, he, by rw [hnode]⟩

/-- No target is looked up twice. -/
theorem Leads.nodup (h : s.Leads node seen n) : seen.Nodup := by
  induction h with
  | here => exact List.nodup_nil
  | step _ hnew _ ih => exact List.nodup_cons.mpr ⟨hnew, ih⟩

/-- Past its first lookup a chain is inside the section: the node it has come to stands there, and
so do the references it has looked up since. -/
theorem Leads.inside (h : s.Leads node seen n) :
    seen = [] ∨ n ∈ s.entries.map (·.2) ∧ ∀ t ∈ seen.dropLast, t ∈ s.targets := by
  induction h with
  | here => exact Or.inl rfl
  | @step seen r next _ hnew hfind ih =>
    refine Or.inr ⟨mem_entries_of_find hfind, ?_⟩
    rcases ih with rfl | ⟨hmem, htargets⟩
    · intro t ht
      cases ht
    · intro t ht
      cases seen with
      | nil => cases ht
      | cons u seen =>
        rw [List.dropLast_cons_of_ne_nil (List.cons_ne_nil u seen)] at ht
        rcases List.mem_cons.mp ht with rfl | ht
        · exact mem_targets hmem
        · exact htargets t ht

/-- A chain that has come to a reference it has not followed yet has looked up at most as many targets
as there are entries. -/
theorem Leads.length_le_of_new {r : Reference} (h : s.Leads node seen (.reference r))
    (hnew : r.target ∉ seen) : seen.length ≤ s.entries.length := by
  rcases h.inside with rfl | ⟨hmem, htargets⟩
  · exact Nat.zero_le _
  · have hnodup : (r.target :: seen.dropLast).Nodup := List.nodup_cons.mpr
      ⟨fun hr => hnew ((List.dropLast_sublist seen).subset hr), h.nodup.sublist (List.dropLast_sublist seen)⟩
    have hinside : r.target :: seen.dropLast ⊆ s.targets :=
      List.cons_subset.mpr ⟨mem_targets hmem, htargets⟩
    have hle := (hnodup.subperm hinside).length_le
    have hbound := s.length_targets_le
    rw [List.length_cons, List.length_dropLast] at hle
    omega

/-- A chain looks up at most one target more than there are entries. -/
theorem Leads.length_le (h : s.Leads node seen n) : seen.length ≤ s.entries.length + 1 := by
  cases h with
  | here => exact Nat.zero_le _
  | step h hnew => exact Nat.succ_le_succ (h.length_le_of_new hnew)

/-! ## Resolving -/

/-- Resolving a node comes to following the rest of its chain from any place on it. -/
theorem Leads.resolve_eq (h : s.Leads node seen n) :
    s.resolve node = s.follow (s.entries.length + 2 - seen.length) seen n := by
  induction h with
  | here => rfl
  | @step seen r next hlead hnew hfind ih =>
    have hle := hlead.length_le
    have hbound : s.entries.length + 2 - seen.length =
        (s.entries.length + 2 - (r.target :: seen).length) + 1 := by
      rw [List.length_cons]
      omega
    rw [ih, hbound, follow]
    simp only [List.contains_iff_mem, hnew, hfind, if_false]

/-- A chain that leads to an inline definition resolves to it. -/
theorem Leads.resolve_ok {a : α} (h : s.Leads node seen (.inline a)) : s.resolve node = .ok a := by
  rw [h.resolve_eq, follow]

/-- A chain that breaks fails where it breaks. -/
theorem Breaks.resolve_error {e : CompileError} (h : s.Breaks node e) :
    s.resolve node = .error e := by
  cases h with
  | @circular seen r hlead hseen =>
    rw [hlead.resolve_eq]
    cases s.entries.length + 2 - seen.length with
    | zero => rw [follow]
    | succ bound =>
      rw [follow]
      simp only [List.contains_iff_mem, hseen, if_true]
  | @fault seen r fault hlead hnew hfind =>
    have hle := hlead.length_le
    obtain ⟨bound, hbound⟩ : ∃ bound, s.entries.length + 2 - seen.length = bound + 1 :=
      ⟨s.entries.length + 1 - seen.length, by omega⟩
    rw [hlead.resolve_eq, hbound, follow]
    simp only [List.contains_iff_mem, hnew, hfind, if_false]

/-- From every place on it, a chain leads to an inline definition or breaks. -/
theorem Leads.ends (h : s.Leads node seen n) :
    (∃ seen' a, s.Leads node seen' (.inline a)) ∨ ∃ e, s.Breaks node e := by
  -- each lookup uses up one of the targets that a chain without repetition has left
  induction hm : s.entries.length + 2 - seen.length using Nat.strongRecOn generalizing seen n with
  | ind m ih =>
    cases n with
    | inline a => exact Or.inl ⟨seen, a, h⟩
    | reference r =>
      by_cases hseen : r.target ∈ seen
      · exact Or.inr ⟨_, .circular h hseen⟩
      · cases hfind : s.find r.target with
        | error fault => exact Or.inr ⟨_, .fault h hseen hfind⟩
        | ok next =>
          have hstep : s.Leads node (r.target :: seen) next := .step h hseen hfind
          have hle := hstep.length_le
          rw [List.length_cons] at hle
          refine ih _ ?_ hstep rfl
          rw [List.length_cons]
          omega

/-- Resolving fails exactly where the chain breaks. -/
theorem resolve_eq_error_iff {e : CompileError} : s.resolve node = .error e ↔ s.Breaks node e := by
  constructor
  · intro h
    have hhere : s.Leads node [] node := .here
    rcases hhere.ends with ⟨seen, a, hlead⟩ | ⟨e', hbreaks⟩
    · rw [hlead.resolve_ok] at h
      cases h
    · rw [hbreaks.resolve_error] at h
      cases h
      exact hbreaks
  · exact Breaks.resolve_error

/-- Resolving returns exactly what the chain leads to. -/
theorem resolve_eq_ok_iff {a : α} :
    s.resolve node = .ok a ↔ ∃ seen, s.Leads node seen (.inline a) := by
  constructor
  · intro h
    have hhere : s.Leads node [] node := .here
    rcases hhere.ends with ⟨seen, b, hlead⟩ | ⟨e, hbreaks⟩
    · rw [hlead.resolve_ok] at h
      cases h
      exact ⟨seen, hlead⟩
    · rw [hbreaks.resolve_error] at h
      cases h
  · rintro ⟨seen, hlead⟩
    exact hlead.resolve_ok

end Section
end ApiCompiler
