import ApiCompiler.Proofs.Registry.Growth
import Mathlib.Data.List.Nodup

/-!
# The names that are taken

A registry keeps the names that are taken beside its models.  It is consistent if these are the
names of its models, each once.  Adding a model keeps a registry consistent, whether the name was
free or not, so whatever grows from a consistent registry is consistent.

A search for a name takes back what a rejected candidate registered.  Instead of keeping the
registry there was, it can free the names of the models that came last and cut these models off,
which is `Registry.rollback`.  That could free too much, namely a name that an earlier model has as
well.  `Registry.Grows.rollback` says that it never does, since a model that is hoisted only ever
takes a free name, so searching in this way is the same (`Build.rollbackFrom_outcome`).  Searches
that compiling a schema makes are of this kind (`Schema.Job.Registers.rollbackFrom_outcome`).
-/

namespace ApiCompiler
namespace Registry

/-- The names that are taken are those of the models, each once. -/
structure Consistent (r : Registry) : Prop where
  mem_taken : ∀ n, n ∈ r.taken ↔ n ∈ r.models.map (·.name)
  nodup : r.taken.Nodup

/-- Keeps the first so many models, and frees the names of the others. -/
def rollback (mark : Nat) (r : Registry) : Registry :=
  { r with
    models := r.models.take mark
    taken := r.taken.filter fun n => !((r.models.drop mark).map (·.name)).contains n }

variable {ok : Registry → Model → Prop} {r r' : Registry}

theorem consistent_empty (strict : Bool) : (empty strict).Consistent :=
  ⟨fun _ => Iff.rfl, List.nodup_nil⟩

theorem taken_addModel_of_mem {m : Model} (h : m.name ∈ r.taken) :
    (r.addModel m).taken = r.taken :=
  if_pos (List.contains_iff_mem.mpr h)

theorem taken_addModel_of_notMem {m : Model} (h : m.name ∉ r.taken) :
    (r.addModel m).taken = r.taken ++ [m.name] :=
  if_neg (mt List.contains_iff_mem.mp h)

/-- Adding a model keeps a registry consistent, whether its name was free or not. -/
theorem Consistent.addModel (h : r.Consistent) (m : Model) : (r.addModel m).Consistent := by
  have hnames : ∀ n, n ∈ (r.addModel m).models.map (·.name) ↔
      n ∈ r.models.map (·.name) ∨ n = m.name := by
    intro n
    rw [Registry.addModel, List.map_append, List.mem_append, List.map_singleton,
      List.mem_singleton]
  by_cases hm : m.name ∈ r.taken
  · refine ⟨fun n => ?_, by rw [taken_addModel_of_mem hm]; exact h.nodup⟩
    rw [taken_addModel_of_mem hm, hnames, ← h.mem_taken]
    exact ⟨Or.inl, fun hn => hn.elim id fun hn => hn ▸ hm⟩
  · refine ⟨fun n => ?_, ?_⟩
    · rw [taken_addModel_of_notMem hm, hnames, List.mem_append, List.mem_singleton, h.mem_taken]
    · rw [taken_addModel_of_notMem hm]
      exact h.nodup.append (List.nodup_singleton _) (List.disjoint_singleton.mpr hm)

theorem Consistent.grows (h : r.Consistent) (hr : r.Grows ok r') : r'.Consistent := by
  induction hr with
  | refl => exact h
  | add m _ _ _ ih => exact ih.addModel m

/-- What is added under a free name can be taken back, and the same names are taken as before. -/
theorem rollback_addModel {m : Model} (hr' : r'.Consistent) (free : r'.model? m.name = none)
    {mark : Nat} (hmark : mark ≤ r'.models.length) :
    (r'.addModel m).rollback mark = r'.rollback mark := by
  have hnew : m.name ∉ r'.taken := by
    rwa [hr'.mem_taken, ← model?_eq_none]
  have hmodels : (r'.addModel m).models = r'.models ++ [m] := rfl
  have hdrop : (r'.models ++ [m]).drop mark = r'.models.drop mark ++ [m] :=
    List.drop_append_of_le_length hmark
  have hfilter : (r'.taken ++ [m.name]).filter
        (fun n => !((r'.models.drop mark ++ [m]).map (·.name)).contains n) =
      r'.taken.filter fun n => !((r'.models.drop mark).map (·.name)).contains n := by
    rw [List.filter_append]
    have hlast : [m.name].filter
        (fun n => !((r'.models.drop mark ++ [m]).map (·.name)).contains n) = [] := by simp
    rw [hlast, List.append_nil]
    refine List.filter_congr fun n hn => ?_
    -- the name that is freed is none of those that were taken before
    have hne : n ≠ m.name := fun heq => hnew (heq ▸ hn)
    simp [hne]
  rw [rollback, taken_addModel_of_notMem hnew, hmodels, hdrop, hfilter,
    List.take_append_of_le_length hmark]
  rfl

theorem rollback_length (r : Registry) : r.rollback r.models.length = r := by
  simp [rollback]

/-- **Taking back.**  Whatever was hoisted from a consistent registry on can be cut off again, and
freeing the names of what is cut off leaves the names that were taken before. -/
theorem Grows.rollback (h : r.Grows ok r') (hr : r.Consistent) :
    r'.rollback r.models.length = r := by
  induction h with
  | refl => exact rollback_length _
  | add m h free _ ih =>
    rw [rollback_addModel (hr.grows h) free h.models_prefix.length_le]
    exact ih

end Registry

/-! ## Searching with rollback -/

namespace Build

/-- `Build.registerFrom`, taking a rejected candidate back by cutting off what it registered. -/
def rollbackFrom (name : String) (build : String → Build Shape) (notes : Annotations) :
    Nat → Nat → Build String
  | 0, counter => do
    let shape ← build (candidate name counter)
    store name (candidate name counter) shape notes
  | bound + 1, counter => do
    let before ← registry
    let shape ← build (candidate name counter)
    let now ← registry
    match now.model? (candidate name counter) with
    | none => store name (candidate name counter) shape notes
    | some existing =>
      if existing.shape.like shape then pure (candidate name counter)
      else do
        setRegistry (now.rollback before.models.length)
        if before.strict then throw (.nameCollision name)
        else rollbackFrom name build notes bound (counter + 1)

/-- Where what is built only adds models under free names, a search that cuts off what it rejects
ends like one that goes back to the registry there was. -/
theorem rollbackFrom_outcome {ok : Registry → Model → Prop} {name : String}
    {build : String → Build Shape} {notes : Annotations}
    (hbuild : ∀ c u shape v, (build c).Returns u shape v → u.registry.Grows ok v.registry)
    (bound counter : Nat) {s : BuildState} (hs : s.registry.Consistent) :
    (rollbackFrom name build notes bound counter).outcome s =
      (registerFrom name build notes bound counter).outcome s := by
  induction bound generalizing counter s with
  | zero => rfl
  | succ bound ih =>
    rw [rollbackFrom, registerFrom, registry_bind_outcome, registry_bind_outcome, outcome_bind,
      outcome_bind]
    rcases hbuilt : (build (candidate name counter)).outcome s with ⟨_ | shape, t⟩
    · rfl
    · have hback : t.registry.rollback s.registry.models.length = s.registry :=
        (hbuild _ _ _ _ hbuilt).rollback hs
      dsimp only
      rw [registry_bind_outcome, registry_bind_outcome]
      cases t.registry.model? (candidate name counter) with
      | none => rfl
      | some existing =>
        dsimp only
        by_cases hlike : existing.shape.like shape = true
        · rw [if_pos hlike, if_pos hlike]
        · rw [if_neg hlike, if_neg hlike, setRegistry_bind_outcome, setRegistry_bind_outcome,
            hback]
          by_cases hstrict : s.registry.strict = true
          · rw [if_pos hstrict, if_pos hstrict]
          · rw [if_neg hstrict, if_neg hstrict]
            exact ih (counter + 1) hs

end Build
end ApiCompiler
