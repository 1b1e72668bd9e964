import ApiCompiler.Proofs.Hoisting.CallOutcomes
import Mathlib

/-!
# What a refused name leaves behind

A strict build refuses a name that belongs to another shape, and the call that asked for it fails.
If the name is the one that was asked for, the call first drops whatever was registered to build
the shape, so nothing has changed.

The refusal may also come out of the building of the shape, for the name of something inside it.
Only the call that is refused drops anything.  What was hoisted out of the members before stays,
with names that hang from a model that is never registered (`Trips.origin_stays`).
`Job.refused_leaves` says that this is all: the registry is the one in which the inner call was
made, so it is the one of the start if nothing had been hoisted before.
-/

namespace ApiCompiler
namespace Schema
namespace Job

variable {j : Job} {r : Registration} {n : String} {after : BuildState}

/-- Only the job of a strict build whose call is refused raises a refusal. -/
theorem Raises.of_nameCollision (h : j.Raises (.nameCollision n) after) :
    ∃ r, j.Calls r ∧ r.name = n ∧ r.outcome = (.error (.nameCollision n), after) ∧
      j.start.registry.strict = true := by
  cases h with
  | refused calls strict outcome => exact ⟨_, calls, rfl, outcome, strict⟩

/-- In a strict build, everything inside what a call builds is compiled under the name that is asked
for, and what is registered meanwhile hangs from it. -/
theorem Calls.grows_of_strict {j' : Job} (h : j.Calls r) (hstrict : j.start.registry.strict = true)
    (hreaches : j.Reaches j') :
    j' = j ∨ (j'.owner = r.name ∨ Registry.HangsFrom r.name j'.owner) ∧
      r.start.registry.Grows (fun _ m => Registry.HangsFrom r.name m.name)
        j'.start.registry := by
  rcases hreaches.cases_head with rfl | ⟨part, hstarts, hrest⟩
  · exact Or.inl rfl
  · rw [← h.start_eq] at hstrict
    obtain ⟨i, u, tried, howner, hgrows⟩ := hstarts.of_calls h
    obtain ⟨rfl, rfl⟩ := tried.of_strict hstrict
    have hname : part.owner = r.name := howner
    have hbelow := Reaches.owner hrest
    have hmore := Reaches.grows hrest
    rw [hname] at hbelow hmore
    exact Or.inr ⟨hbelow, hgrows.trans hmore⟩

/-- **What a refusal leaves.**  If a call fails because a name is refused, this is either the name
that was asked for, and the registry is what it was before the call; or it is a name that hangs from
it and that a call further inside was refused.  Then the registry is what it was before the call
further inside, with the models that had been hoisted until then. -/
theorem refused_leaves (hcalls : j.Calls r)
    (h : r.outcome = (.error (.nameCollision n), after)) :
    n = r.name ∧ after.registry = r.start.registry ∨
      Registry.HangsFrom r.name n ∧ ∃ j' r', j.Reaches j' ∧ j'.Calls r' ∧ r'.name = n ∧
        r'.outcome = (.error (.nameCollision n), after) ∧
        after.registry = r'.start.registry ∧
        ∃ kept, after.registry.models = r.start.registry.models ++ kept ∧
          (∀ m ∈ kept, Registry.HangsFrom r.name m.name) ∧
          (kept = [] → after.registry = r.start.registry) := by
  obtain ⟨j', hreaches, hraises⟩ := exists_raises (hcalls.outcome_eq_error.mpr h)
  obtain ⟨r', hcalls', rfl, hout, hstrict'⟩ := hraises.of_nameCollision
  have hregistry := hraises.registry_eq
  have hstrict : j.start.registry.strict = true := by
    rw [← hreaches.grows.strict_eq]
    exact hstrict'
  rcases hcalls.grows_of_strict hstrict hreaches with rfl | ⟨hbelow, hgrows⟩
  · -- the call itself is refused, which drops what was registered meanwhile
    obtain rfl := hcalls.unique hcalls'
    rw [← hcalls.start_eq] at hregistry
    exact Or.inl ⟨rfl, hregistry⟩
  · -- a call further inside is refused, and nothing is dropped on the way out
    have hhangs : Registry.HangsFrom r.name r'.name := by
      rcases hbelow with heq | hbelow
      · exact heq ▸ hcalls'.hangsFrom
      · exact hbelow.trans hcalls'.hangsFrom
    rw [← hregistry] at hgrows
    obtain ⟨kept, hkept, hnames, hnone⟩ := hgrows.exists_models
    rw [← hcalls'.start_eq] at hregistry
    exact Or.inr ⟨hhangs, j', r', hreaches, hcalls', rfl, hout, hregistry, kept, hkept,
      fun m hm => (hnames m hm).elim fun _ h => h, hnone⟩

end Job
end Schema

/-! ## Trips -/

namespace Trips

open Schema (Keywords Children Job)

def objectKeywords : Keywords := { Keywords.blank with type := some (.one .object) }

def place : Schema := .inline objectKeywords .blank

def legChildren : Children Schema :=
  { Children.blank with properties := some [("from", place), ("to", place)] }

/-- A leg of a trip has two objects, and the first one of them is hoisted first. -/
def leg : Schema := .inline objectKeywords legChildren

def text : Model := ⟨"Trip_Leg_To", .scalar .none .string, .none⟩

/-- The name that the second object would get belongs to a text, and the build is strict. -/
def taken : BuildState := ⟨⟨true, [text], ["Trip_Leg_To"]⟩, []⟩

def job : Job := ⟨leg, "Trip", "leg", false, taken⟩

/-- The name that is asked for on behalf of the leg. -/
def call : Registration :=
  ⟨Schema.syntheticName "Trip" "leg" false, Schema.compileMembers objectKeywords legChildren,
    leg.annotations, taken⟩

theorem job_calls : job.Calls call := .object rfl rfl

/-- The second object is refused, and the first one stays. -/
def left : BuildState :=
  ⟨⟨true, [text, ⟨"Trip_Leg_From", .object .none [] none, .none⟩],
    ["Trip_Leg_To", "Trip_Leg_From"]⟩, []⟩

theorem call_outcome : call.outcome = (.error (.nameCollision "Trip_Leg_To"), left) := by
  cbv

/-- A call that is refused the name of something inside it does not leave the models there were. -/
theorem origin_stays :
    ¬ ∀ (j : Job) (r : Registration) (n : String) (after : BuildState),
      j.start.registry.strict = true → j.Calls r →
        r.outcome = (.error (.nameCollision n), after) →
          after.registry.models = r.start.registry.models ∧
            ∀ name, name ∈ after.registry.taken ↔ name ∈ r.start.registry.taken := by
  intro h
  obtain ⟨hmodels, -⟩ := h job call "Trip_Leg_To" left rfl job_calls call_outcome
  cases hmodels

/-- What stays of the leg hangs from its name, which is not registered. -/
theorem destination_refused :
    job.Calls call ∧ call.outcome = (.error (.nameCollision "Trip_Leg_To"), left) ∧
      ∃ kept, left.registry.models = taken.registry.models ++ kept ∧
        ∀ m ∈ kept, Registry.HangsFrom call.name m.name := by
  refine ⟨job_calls, call_outcome, ?_⟩
  rcases Job.refused_leaves job_calls call_outcome with ⟨hname, -⟩ |
    ⟨-, -, -, -, -, -, -, -, kept, hkept, hhangs, -⟩
  · exact absurd hname (by decide)
  · exact ⟨kept, hkept, hhangs⟩

end Trips
end ApiCompiler
