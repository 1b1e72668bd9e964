import ApiCompiler.Proofs.Build.Assembly
import ApiCompiler.Proofs.Build.Safety

/-!
# Strict and lenient runs in lockstep

A strict build differs from a lenient one in a single place: where a name is taken by another shape,
it refuses the name and fails, and the lenient build goes on to the next candidate.  So the two runs
do the same until the strict one fails for that reason, however deep inside a shape it happens.

`Build.Lockstep m m'` says this of two steps, started in states that differ in strictness only.  As
the strict run never gets past its first candidate, only that one has to be compared
(`registerShape_lockstep`), and `Assembled.lockstep` carries the comparison to whole builds.
-/

namespace ApiCompiler

/-- The same registry in a build that is not strict. -/
def Registry.relaxed (r : Registry) : Registry := { r with strict := false }

/-- The same state in a build that is not strict. -/
def BuildState.relaxed (s : BuildState) : BuildState := { s with registry := s.registry.relaxed }

namespace Build

variable {α β : Type}

/-- The step, started in `s`, refuses a name. -/
def Refuses (m : Build α) (s : BuildState) : Prop :=
  ∃ name, (m.outcome s).1 = .error (.nameCollision name)

/-- Wherever a strict run starts that has renamed nothing, the first step refuses a name, or it
still has renamed nothing and the second step ends in the same way in a lenient run. -/
def Lockstep (m m' : Build α) : Prop :=
  ∀ s, Unrenamed s → m.Refuses s ∨
    Unrenamed (m.outcome s).2 ∧ m'.outcome s.relaxed = ((m.outcome s).1, (m.outcome s).2.relaxed)

theorem pure_lockstep (a : α) : Lockstep (pure a) (pure a) := fun _ hs => Or.inr ⟨hs, rfl⟩

theorem throw_lockstep (e : CompileError) : Lockstep (throw e : Build α) (throw e) :=
  fun _ hs => Or.inr ⟨hs, rfl⟩

theorem Lockstep.bind {m m' : Build α} {f f' : α → Build β} (hm : Lockstep m m')
    (hf : ∀ a, Lockstep (f a) (f' a)) : Lockstep (m >>= f) (m' >>= f') := by
  intro s hs
  have hbind := outcome_bind m f s
  rcases hm s hs with ⟨name, hrefuses⟩ | ⟨hstate, hlenient⟩
  · refine Or.inl ⟨name, ?_⟩
    rcases hrun : m.outcome s with ⟨e | a, t⟩
    · rw [hrun] at hrefuses hbind
      rw [hbind, Except.error.inj hrefuses]
    · rw [hrun] at hrefuses
      cases hrefuses
  · have hbind' := outcome_bind m' f' s.relaxed
    rw [hlenient] at hbind'
    rcases hrun : m.outcome s with ⟨e | a, t⟩
    · rw [hrun] at hstate hbind hbind'
      refine Or.inr ⟨?_, ?_⟩
      · rw [hbind]
        exact hstate
      · rw [hbind, hbind']
    · rw [hrun] at hstate hbind hbind'
      unfold Refuses
      rw [hbind, hbind']
      exact hf a t hstate

/-- What a run reads of the registry is the same but for strictness. -/
theorem registry_bind_lockstep {f f' : Registry → Build β}
    (h : ∀ r, r.strict = true → Lockstep (f r) (f' r.relaxed)) :
    Lockstep (registry >>= f) (registry >>= f') :=
  fun s hs => h s.registry hs.strict s hs

theorem report_lockstep {n : Notice} (hn : ∀ name stored, n ≠ .renamedModel name stored) :
    Lockstep (report n) (report n) :=
  fun _ hs => Or.inr ⟨unrenamed_tolerates.report hn hs, rfl⟩

theorem addModel_lockstep (m : Model) :
    Lockstep (registry >>= fun r => setRegistry (r.addModel m))
      (registry >>= fun r => setRegistry (r.addModel m)) :=
  fun _ hs => Or.inr ⟨hs.addModel m, rfl⟩

/-- A strict run that refuses a name is in step with whatever the lenient run does. -/
theorem lockstep_of_refuses {m m' : Build α} (h : ∀ s, Unrenamed s → m.Refuses s) :
    Lockstep m m' :=
  fun s hs => Or.inl (h s hs)

/-! ## Naming shapes -/

/-- Nothing is reported of a model that gets the name made for it. -/
theorem store_lockstep (name : String) (shape : Shape) (notes : Annotations) :
    Lockstep (store name name shape notes) (store name name shape notes) := by
  have hadd := (addModel_lockstep ⟨name, shape, notes⟩).bind fun _ => pure_lockstep name
  rw [bind_assoc] at hadd
  unfold store
  rwa [if_neg (by simp)]

/-- The search for a name is over for a strict run with the first candidate: the name is free, or
taken by a shape that says the same, or refused. -/
theorem registerShape_lockstep (name : String) {build : String → Build Shape} (notes : Annotations)
    (hbuild : ∀ c, Lockstep (build c) (build c)) :
    Lockstep (registerShape name build notes) (registerShape name build notes) := by
  have hfirst : candidate name 1 = name := rfl
  refine registry_bind_lockstep fun r _ => ?_
  show Lockstep (registerFrom name build notes (r.models.length + 1) 1)
    (registerFrom name build notes (r.models.length + 1) 1)
  rw [registerFrom, hfirst]
  refine registry_bind_lockstep fun before hstrict => ?_
  refine (hbuild name).bind fun shape => ?_
  refine registry_bind_lockstep fun now _ => ?_
  have hmodel : now.relaxed.model? name = now.model? name := rfl
  rw [hmodel]
  cases now.model? name with
  | none => exact store_lockstep name shape notes
  | some existing =>
    dsimp only
    by_cases hlike : existing.shape.like shape = true
    · rw [if_pos hlike, if_pos hlike]
      exact pure_lockstep name
    · rw [if_neg hlike]
      refine lockstep_of_refuses fun s _ => ⟨name, ?_⟩
      rw [if_pos hstrict]
      rfl

/-- **Lockstep.**  A build in a strict run refuses a name, or it does what it does in a lenient
run. -/
theorem Assembled.lockstep {m : Build α} (h : Assembled m) : Lockstep m m := by
  induction h with
  | pure a => exact pure_lockstep a
  | bind _ _ ihm ihf => exact ihm.bind ihf
  | throw e => exact throw_lockstep e
  | report hn => exact report_lockstep hn
  | registerShape name notes _ ih => exact registerShape_lockstep name notes ih
  | addComponent m => exact addModel_lockstep m
  | models => exact registry_bind_lockstep fun r _ => pure_lockstep r.models

end Build
end ApiCompiler
