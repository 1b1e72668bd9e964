import ApiCompiler.Compilation
import ApiCompiler.Proofs.Operation.Uses
import Mathlib

/-!
# When a document does not compile

`Document.uses` lists every node that compiling a document resolves, in walking order: paths in order,
methods in their fixed order, and of each operation its parameters, its body and its selected
response.  `Document.Breaks d e` says that `e` is the error of the first of them whose chain of
references breaks.

A build that is not strict fails with that error, and otherwise returns, whatever the schemas of the
document are, as long as all enumerated values can be written (`compile_fails`).  A value that
cannot be written, such as a day, brings a build down that nothing else is wrong with
(`Holidays.holidays_fail`).
-/

namespace ApiCompiler
namespace Document

open Build (StopsWith)

/-- Every node that compiling the document resolves, in walking order. -/
def uses (d : Document) : List Use :=
  d.declaredOperations.flatMap fun (_, item, _, op) => op.uses (item.parameters.getD [])

/-- The first of the used nodes whose chain of references breaks breaks with this error. -/
def Breaks (d : Document) (e : CompileError) : Prop :=
  ∃ before u after, d.uses = before ++ u :: after ∧ (∀ v ∈ before, ∀ e', ¬ v.Breaks d.parts e') ∧
    u.Breaks d.parts e

variable {d : Document}

theorem findSome?_uses_eq_some_iff {e : CompileError} :
    d.uses.findSome? (Use.error? d.parts) = some e ↔ d.Breaks e := by
  have hnone : ∀ v : Use, v.error? d.parts = none ↔ ∀ e', ¬ v.Breaks d.parts e' := by
    intro v
    simp only [Option.eq_none_iff_forall_ne_some, ne_eq, Use.error?_eq_some_iff]
  rw [List.findSome?_eq_some_iff]
  simp only [hnone, Use.error?_eq_some_iff]
  constructor
  · rintro ⟨before, u, after, huses, hbreaks, hbefore⟩
    exact ⟨before, u, after, huses, hbefore, hbreaks⟩
  · rintro ⟨before, u, after, huses, hbefore, hbreaks⟩
    exact ⟨before, u, after, huses, hbreaks, hbefore⟩

/-! ## Component schemas -/

theorem compileSchemas_stopsWith {schemas : List (String × Schema)}
    (h : ∀ e ∈ schemas, d.Writes e.2) : StopsWith d.Unwritable none (compileSchemas schemas) := by
  induction schemas with
  | nil => exact Build.pure_stopsWith ()
  | cons e schemas ih =>
    rw [List.forall_mem_cons] at h
    obtain ⟨name, s⟩ := e
    have hschema : ∀ p ∈ some s, d.Writes p := by
      intro p hp
      obtain rfl := Option.some.inj hp
      exact h.1
    have hadd : ∀ shape, StopsWith d.Unwritable none (do
        let r ← Build.registry
        Build.setRegistry (r.addComponent ⟨name, shape, s.annotations⟩)) :=
      fun shape before hbefore => ⟨rfl, hbefore⟩
    rw [compileSchemas]
    refine Build.bind_stopsWith_first (compileOptional_stopsWith hschema name)
      fun shape _ _ _ => ?_
    rw [← bind_assoc]
    exact Build.bind_stopsWith_first (hadd shape) fun _ _ _ _ => ih h.2

theorem compileModels_stopsWith (d : Document) :
    StopsWith d.Unwritable none d.compileModels :=
  compileSchemas_stopsWith fun _ he => .component (List.mem_mergeSort.mp he)

/-! ## Operations -/

/-- Where every tag is allowed, every operation has a grouping tag. -/
theorem groupingTag?_none (tags : List String) : ∃ tag, groupingTag? tags none = some tag := by
  cases tags with
  | nil => exact ⟨_, rfl⟩
  | cons tag tags => exact ⟨tag, rfl⟩

/-- Where every tag is allowed, the nodes used are those of all operations that are compiled. -/
theorem findSome?_uses {β : Type} (f : Use → Option β) :
    d.uses.findSome? f = (d.groupedOperations none).findSome? fun (_, _, item, _, op) =>
      (op.uses (item.parameters.getD [])).findSome? f := by
  rw [uses, groupedOperations]
  induction d.declaredOperations with
  | nil => rfl
  | cons o os ih =>
    obtain ⟨tag, htag⟩ := groupingTag?_none (o.2.2.2.tags.getD [])
    have hfirst : (o :: os).filterMap (fun o => (groupingTag? (o.2.2.2.tags.getD []) none).map
        fun tag => (tag, o)) = (tag, o) :: os.filterMap fun o =>
          (groupingTag? (o.2.2.2.tags.getD []) none).map fun tag => (tag, o) :=
      List.filterMap_cons_some (by rw [htag, Option.map_some])
    rw [List.flatMap_cons, List.findSome?_append, ih, hfirst, Build.findSome?_cons_eq_or]

theorem compileOperations_stopsWith (d : Document) :
    StopsWith d.Unwritable (d.uses.findSome? (Use.error? d.parts)) (d.compileOperations none) := by
  rw [findSome?_uses, compileOperations]
  refine Build.forEach_stopsWith ?_
  rintro ⟨tag, path, item, method, op⟩ ho
  obtain ⟨⟨hitem, hop⟩, -⟩ := mem_groupedOperations.mp ho
  exact Operation.compile_stopsWith hitem hop

/-! ## Documents -/

theorem build_stopsWith (d : Document) :
    StopsWith d.Unwritable (d.uses.findSome? (Use.error? d.parts)) d.build := by
  unfold build compileServices
  refine Build.bind_stopsWith_second d.compileModels_stopsWith fun _ _ _ _ => ?_
  refine Build.bind_stopsWith_first ?_ fun services _ _ _ => ?_
  · exact Build.bind_stopsWith_first d.compileOperations_stopsWith
      fun _ _ _ _ => Build.pure_stopsWith _
  · exact fun before hbefore => ⟨rfl, hbefore⟩

/-- How a build that is not strict can fail.  Its error is that of the first used node whose chain of
references breaks, or that of an enumerated value that cannot be written; and where a chain breaks
it does fail.  Without a value that cannot be written it fails exactly where a chain breaks. -/
theorem compile_fails (d : Document) :
    (∀ e, (d.compile false).1 = .error e → d.Breaks e ∨ d.Unwritable e) ∧
      (∀ e, d.Breaks e →
        ∃ e', (d.compile false).1 = .error e' ∧ (e' = e ∨ d.Unwritable e')) ∧
      ((∀ e, ¬ d.Unwritable e) → ∀ e, (d.compile false).1 = .error e ↔ d.Breaks e) := by
  have hstart : Build.Lenient (Build.start false) := rfl
  have hstops := d.build_stopsWith (Build.start false) hstart
  have hresult : (d.compile false).1 = (d.build.outcome (Build.start false)).1 := rfl
  have hfails : ∀ e, (d.compile false).1 = .error e → d.Breaks e ∨ d.Unwritable e := by
    intro e he
    rw [hresult] at he
    rcases hrun : d.build.outcome (Build.start false) with ⟨r, t⟩
    rw [hrun] at he hstops
    obtain rfl : r = .error e := he
    exact hstops.imp_left findSome?_uses_eq_some_iff.mp
  have hbroken : ∀ e, d.Breaks e →
      ∃ e', (d.compile false).1 = .error e' ∧ (e' = e ∨ d.Unwritable e') := by
    intro e he
    rw [← findSome?_uses_eq_some_iff] at he
    rw [hresult]
    rcases hrun : d.build.outcome (Build.start false) with ⟨e' | api, t⟩
    · rw [hrun, he] at hstops
      exact ⟨e', rfl, hstops.imp_left fun h => (Option.some.inj h).symm⟩
    · rw [hrun, he] at hstops
      cases hstops.1
  refine ⟨hfails, hbroken, fun hwritable e => ⟨fun he => ?_, fun he => ?_⟩⟩
  · exact (hfails e he).resolve_right (hwritable e)
  · obtain ⟨e', he', hsame⟩ := hbroken e he
    rw [← hsame.resolve_right (hwritable e')]
    exact he'

end Document

/-! ## A day among the values -/

namespace Holidays

open Schema (Keywords Children)

/-- An enumeration whose value is a day. -/
def holiday : Schema :=
  .inline { Keywords.blank with enum := some [.scalar (.day ⟨2024, 1, 1⟩)] } .blank

def document : Document :=
  { openapi := "3.0.0"
    info := ⟨"Holidays", "1", none, [], []⟩
    paths := some []
    components := some { Document.Components.empty with schemas := some [("Holiday", holiday)] }
    tags := none
    extra := []
    nulls := [] }

/-- Nothing is used, and yet the document does not compile: the text of a day in an enumeration is
asked for, and days are not written. -/
theorem holidays_fail :
    document.uses = [] ∧
      (document.compile false).1 = .error (.breakdown (.unwritable "date")) ∧
      ¬ ∀ (d : Document) (e : CompileError), (d.compile false).1 = .error e ↔ d.Breaks e := by
  have huses : document.uses = [] := by cbv
  have hfails : (document.compile false).1 = .error (.breakdown (.unwritable "date")) := by cbv
  refine ⟨huses, hfails, fun h => ?_⟩
  obtain ⟨before, u, after, hlist, -⟩ := (h document _).mp hfails
  rw [huses] at hlist
  exact List.append_ne_nil_of_right_ne_nil before (List.cons_ne_nil u after) hlist.symm

end Holidays
end ApiCompiler
