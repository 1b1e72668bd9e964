import ApiCompiler.Proofs.Hoisting.CallOutcomes
import ApiCompiler.Proofs.Hoisting.Safety
import Mathlib

/-!
# The names that hoisted shapes end up with

Hoisting an object searches for a name, and every candidate builds the object anew, with further
searches inside.  Two things are said of all searches that compiling a schema makes, at any depth
and also below candidates that are rejected later.

`Job.search_ends` says that the search ends, at the first candidate that is acceptable.  Neither
the depth of the schema nor the number of models enters: what is built under a candidate never
takes the candidate itself, so each search is bounded by the models there are when it starts.

`Job.names_hang` says where the new names come from.  What compiling registers hangs from the owner
it is given; and what an object registers while it is built hangs from the name that it is stored
under in the end, since everything that was built under another candidate is gone.
-/

namespace ApiCompiler
namespace Schema
namespace Job

variable {j : Job} {r : Registration}

/-- In a lenient build, compiling fails for a value that cannot be written only. -/
theorem unwritable_of_lenient {e : CompileError} {after : BuildState}
    (hlenient : Build.Lenient j.start) (h : j.outcome = (.error e, after)) :
    j.schema.Unwritable e := by
  have hends := compile_endsIn Build.lenient_tolerates j.schema j.owner j.property j.isItem j.start
    hlenient
  unfold Build.EndsIn at hends
  rw [outcome] at h
  rw [h] at hends
  exact hends.resolve_right id

/-- **Naming ends at the first acceptable name.**  Every search for a name that compiling a schema
makes in a lenient build is over after at most one candidate more than there are models when it
starts.  The name that it returns is the first candidate that was free or whose first model is like
the shape built under this very candidate; each candidate is tried with the models of the start, so
rejected ones leave none.  Only an enumerated value that cannot be written keeps it from returning a
name. -/
theorem search_ends (hlenient : Build.Lenient j.start) (hr : j.Registers r) :
    ∃ k, r.SearchedUpTo k ∧
      (r.outcome.1 = .ok (r.candidate k) ∧ r.Accepts k ∨
        ∃ e, r.outcome.1 = .error e ∧ j.schema.Unwritable e) := by
  obtain ⟨j', hreaches, hcalls⟩ := hr
  obtain ⟨k, hsearched⟩ := Registration.exists_searchedUpTo hcalls.spares
  refine ⟨k, hsearched, ?_⟩
  have hends := hsearched.ends
  rcases hout : r.outcome with ⟨e | n, after⟩
  · have hlenient' : Build.Lenient j'.start := hreaches.grows.strict_eq.trans hlenient
    have hunwritable := unwritable_of_lenient hlenient' (hcalls.outcome_eq_error.mpr hout)
    exact Or.inr ⟨e, rfl, hunwritable.of_part hreaches.occurs⟩
  · rw [hout] at hends
    obtain ⟨rfl, haccepts⟩ := hends.accepts hcalls.spares
    exact Or.inl ⟨rfl, haccepts⟩

/-- A call that returns a name leaves the models there were, those that building the shape under
this name has added, and the model of the name itself unless there was one. -/
theorem Calls.models_eq {n : String} {after : BuildState} (h : j.Calls r)
    (hout : r.outcome = (.ok n, after)) :
    ∃ k u shape v inner own, n = r.candidate k ∧ r.Tries k u ∧ (r.build n).Returns u shape v ∧
      v.registry.models = r.start.registry.models ++ inner ∧
      (∀ m ∈ inner, Registry.HangsFrom n m.name ∧ m.name ≠ n) ∧
      after.registry.models = r.start.registry.models ++ inner ++ own ∧
      (own = [] ∨ own = [⟨n, shape, r.notes⟩]) := by
  obtain ⟨k, -, hends⟩ := Registration.exists_ends h.spares
  rw [hout] at hends
  cases hends with
  | @chosen u v after shape tried built stored =>
  have hgrows := h.build_grows built
  rw [tried.registry_eq] at hgrows
  obtain ⟨inner, hinner, hhangs, -⟩ := hgrows.exists_models
  have hnames : ∀ m ∈ inner, Registry.HangsFrom (r.candidate k) m.name ∧
      m.name ≠ r.candidate k := by
    intro m hm
    obtain ⟨-, hm⟩ := hhangs m hm
    exact ⟨hm, hm.ne⟩
  cases stored with
  | fresh free =>
    refine ⟨k, u, shape, v, inner, [⟨r.candidate k, shape, r.notes⟩], rfl, tried, built, hinner,
      hnames, ?_, Or.inr rfl⟩
    rw [← hinner]
    rfl
  | shared found like =>
    refine ⟨k, u, shape, _, inner, [], rfl, tried, built, hinner, hnames, ?_, Or.inl rfl⟩
    rw [List.append_nil, hinner]

/-- **Names hang from final names.**  Whatever compiling a schema leaves newly registered has a name
that starts with the owner's and an underscore.  And if a shape is hoisted on the way and gets the
name `n`, then whatever else was registered to build it has a name that starts with `n` and an
underscore, and so is never called `n`. -/
theorem names_hang (j : Job) :
    (∃ added, j.outcome.2.registry.models = j.start.registry.models ++ added ∧
      ∀ m ∈ added, Registry.HangsFrom j.owner m.name) ∧
    ∀ r n after, j.Registers r → r.outcome = (.ok n, after) →
      ∃ k u shape v inner own, n = r.candidate k ∧ r.Tries k u ∧ (r.build n).Returns u shape v ∧
        v.registry.models = r.start.registry.models ++ inner ∧
        (∀ m ∈ inner, Registry.HangsFrom n m.name ∧ m.name ≠ n) ∧
        after.registry.models = r.start.registry.models ++ inner ++ own ∧
        (own = [] ∨ own = [⟨n, shape, r.notes⟩]) := by
  constructor
  · obtain ⟨added, hadded, hhangs, -⟩ := j.outcome_grows.exists_models
    exact ⟨added, hadded, fun m hm => (hhangs m hm).elim fun _ h => h⟩
  · rintro r n after ⟨j', -, hcalls⟩ hout
    exact hcalls.models_eq hout

end Job
end Schema

/-! ## Baskets -/

namespace Baskets

open Schema (Keywords Children Job)

def objectKeywords : Keywords := { Keywords.blank with type := some (.one .object) }

def seller : Schema := .inline objectKeywords .blank

def lineChildren : Children Schema :=
  { Children.blank with properties := some [("seller", seller)] }

/-- A line of a basket has an object under the property for its seller. -/
def line : Schema := .inline objectKeywords lineChildren

def basket : Schema :=
  .inline { Keywords.blank with type := some (.one .array) }
    { Children.blank with items := some line }

def text : Model := ⟨"Basket_Item", .scalar .none .string, .none⟩

/-- The name that lines would get belongs to a text. -/
def taken : BuildState := ⟨⟨false, [text], ["Basket_Item"]⟩, []⟩

def job : Job := ⟨basket, "Basket", "", false, taken⟩

/-- The name that is asked for on behalf of the lines. -/
def call : Registration :=
  ⟨Schema.syntheticName "Basket" "" true, Schema.compileMembers objectKeywords lineChildren,
    line.annotations, taken⟩

theorem job_registers : job.Registers call :=
  ⟨_, Relation.ReflTransGen.single (.items rfl rfl), .object rfl rfl⟩

/-- The lines are stored under the second candidate, and the model of their seller hangs from it. -/
def renamed : BuildState :=
  ⟨⟨false,
      [text, ⟨"Basket_Item2_Seller", .object .none [] none, .none⟩,
        ⟨"Basket_Item2", .object .none [⟨"seller", .ref .none "Basket_Item2_Seller", false, .none⟩]
          none, .none⟩],
      ["Basket_Item", "Basket_Item2_Seller", "Basket_Item2"]⟩,
    [.renamedModel "Basket_Item" "Basket_Item2"]⟩

theorem call_outcome : call.outcome = (.ok "Basket_Item2", renamed) := by
  cbv

/-- The name that the lines would get is rejected, and the next candidate is acceptable. -/
theorem lines_renamed :
    Build.Lenient job.start ∧ job.Registers call ∧ call.Rejects 1 ∧ call.Accepts 2 := by
  refine ⟨rfl, job_registers, ?_⟩
  obtain ⟨k, hsearched, ⟨hname, haccepts⟩ | ⟨e, herror, -⟩⟩ :=
    Job.search_ends (j := job) rfl job_registers
  · rw [call_outcome, Except.ok.injEq] at hname
    have hsecond : call.candidate 2 = "Basket_Item2" := by cbv
    obtain rfl : 2 = k :=
      Build.candidate_injective (by decide) hsearched.one_le (hsecond.trans hname)
    exact ⟨hsearched.rejected 1 (by decide) (by decide), haccepts⟩
  · rw [call_outcome] at herror
    cases herror

/-- Besides the lines, only what hangs from their final name is registered. -/
theorem sellers_hang :
    job.Registers call ∧ call.outcome = (.ok "Basket_Item2", renamed) ∧
      ∃ inner own, renamed.registry.models = taken.registry.models ++ inner ++ own ∧
        (∀ m ∈ inner, Registry.HangsFrom "Basket_Item2" m.name ∧ m.name ≠ "Basket_Item2") ∧
        own.length ≤ 1 := by
  refine ⟨job_registers, call_outcome, ?_⟩
  obtain ⟨_, _, _, _, inner, own, -, -, -, -, hinner, hmodels, hown⟩ :=
    (Job.names_hang job).2 call "Basket_Item2" renamed job_registers call_outcome
  refine ⟨inner, own, hmodels, hinner, ?_⟩
  rcases hown with rfl | rfl
  · exact Nat.zero_le 1
  · exact Nat.le_refl 1

end Baskets
end ApiCompiler
