import ApiCompiler.Proofs.Hoisting.Calls

/-!
# Where errors and models come from

`Hoisting.Calls` lists the jobs that compiling a schema starts and the calls for names that they
make.  This file says that the list is complete in two respects.

If a job fails, then it or a job that it starts at some depth raises the error itself
(`Job.exists_raises`).  So a failure leaves the registry in which that one job started, and whether
it returns or fails, a job only registers what hangs from its owner (`Job.outcome_grows`).

And every model that a job leaves was there before or was stored by one of the calls
(`Job.exists_stores`).
-/

namespace ApiCompiler
namespace Schema
namespace Job

/-- The job raises the error itself: an enumeration lists a value that cannot be written, or the
name that it asks for is refused, which leaves the registry as it was. -/
inductive Raises : Job → CompileError → BuildState → Prop
  | unwritable {k : Keywords} {c : Children Schema} {owner property : String} {isItem : Bool}
      {start : BuildState} {reason : Breakdown} (form : k.form c = .literals)
      (unwritten : literalTexts k.values = .error reason) :
      Raises ⟨.inline k c, owner, property, isItem, start⟩ (.breakdown reason) start
  | refused {j : Job} {r : Registration} {after : BuildState} (calls : j.Calls r)
      (strict : j.start.registry.strict = true)
      (outcome : r.outcome = (.error (.nameCollision r.name), after))
      (registry : after.registry = j.start.registry) : Raises j (.nameCollision r.name) after

variable {j j' : Job} {r : Registration} {k : Keywords} {c : Children Schema} {own : String}
  {t after : BuildState} {e : CompileError}

/-! ## Jobs that fail -/

/-- If compiling the members of an object fails, one of them fails. -/
theorem Opens.exists_starts (h : Opens k c j own t)
    (hfails : (compileMembers k c own).Fails t e after) :
    ∃ j', j.Starts j' ∧ j'.outcome = (.error e, after) := by
  rw [compileMembers, Build.bind_fails] at hfails
  rcases hfails with hfields | ⟨gs, u, ran, hfails⟩
  · obtain ⟨done, f, rest, gs, u, hfs, ran, hfield⟩ := Build.forEach_fails hfields
    rw [compileField, Build.bind_pure_fails] at hfield
    exact ⟨_, .field h hfs ran, hfield⟩
  · rw [Build.bind_pure_fails] at hfails
    rcases hremaining : c.remaining with _ | _ | s
    · rw [hremaining] at hfails
      exact absurd hfails Build.not_pure_fails
    · rw [hremaining, compileRemaining, Build.bind_pure_fails] at hfails
      exact absurd hfails Build.not_pure_fails
    · rw [hremaining, compileRemaining, Build.bind_pure_fails] at hfails
      exact ⟨_, .further h ran hremaining, hfails⟩

/-- A call that fails is refused its name, or building the shape fails under some candidate. -/
theorem Calls.fails (h : j.Calls r) (hfails : r.outcome = (.error e, after)) :
    j.Raises e after ∨ ∃ i u, r.Tries i u ∧ (r.build (r.candidate i)).Fails u e after := by
  obtain ⟨i, -, hends⟩ := Registration.exists_ends h.spares
  rw [hfails] at hends
  cases hends with
  | failed tried fails => exact Or.inr ⟨i, _, tried, fails⟩
  | refused tried built found unlike strict =>
    have hregistry := tried.registry_eq
    rw [h.start_eq] at hregistry
    rw [hregistry] at strict
    exact Or.inl (.refused h strict hfails hregistry)

/-- A job that fails raises the error itself, or one of the jobs that it starts fails. -/
theorem raises_or_starts (h : j.outcome = (.error e, after)) :
    j.Raises e after ∨ ∃ j', j.Starts j' ∧ j'.outcome = (.error e, after) := by
  obtain ⟨s, owner, property, isItem, start⟩ := j
  have hfails : (s.compile owner property isItem).Fails start e after := h
  cases s with
  | reference ref =>
    rw [compile_reference, compileReference] at hfails
    split at hfails
    · rw [Build.bind_pure_fails] at hfails
      cases hfails
    · exact absurd hfails Build.not_pure_fails
  | inline k c =>
    rw [compile_inline] at hfails
    split at hfails
    · case h_1 how ms hform =>
      rw [Build.bind_pure_fails] at hfails
      obtain ⟨done, s, rest, as, u, rfl, ran, hmember⟩ := Build.forEach_fails hfails
      exact Or.inr ⟨_, .member hform ran, hmember⟩
    · case h_2 inner hform =>
      rw [Build.bind_pure_fails] at hfails
      exact Or.inr ⟨_, .negated hform, hfails⟩
    · case h_3 hform =>
      cases hlisted : literalTexts k.values with
      | error reason =>
        rw [compileEnum, enumeration_eq, hlisted] at hfails
        cases hfails
        exact Or.inl (.unwritable hform hlisted)
      | ok texts =>
        have hshape := enumeration_eq k
        rw [hlisted] at hshape
        by_cases hnested : isNested property isItem = true
        · have hcalls : Calls ⟨.inline k c, owner, property, isItem, start⟩ _ :=
            .literals hform hnested hshape
          refine (hcalls.fails (hcalls.outcome_eq_error.mp h)).imp_right ?_
          -- the enumeration is there before the call, so building it cannot fail
          rintro ⟨i, u, -, hbuild⟩
          exact absurd hbuild Build.not_pure_fails
        · rw [Bool.not_eq_true] at hnested
          rw [compileEnum, hshape, hnested] at hfails
          cases hfails
    · case h_4 hform =>
      by_cases hnested : isNested property isItem = true
      · have hcalls : Calls ⟨.inline k c, owner, property, isItem, start⟩ _ :=
          .object hform hnested
        refine (hcalls.fails (hcalls.outcome_eq_error.mp h)).imp_right ?_
        rintro ⟨i, u, tried, hbuild⟩
        exact (Opens.candidate hform hcalls tried).exists_starts hbuild
      · rw [compileObject, if_neg hnested, objectFrom_eq] at hfails
        rw [Bool.not_eq_true] at hnested
        rw [syntheticName_of_not_nested hnested] at hfails
        exact Or.inr ((Opens.inPlace hform hnested).exists_starts hfails)
    · case h_5 hform =>
      rw [Build.bind_pure_fails] at hfails
      cases hitems : c.items with
      | none =>
        rw [hitems] at hfails
        exact absurd hfails Build.not_pure_fails
      | some s =>
        rw [hitems] at hfails
        exact Or.inr ⟨_, .items hform hitems, hfails⟩
    · exact absurd hfails Build.not_pure_fails
    · rw [compileUntyped] at hfails
      split at hfails
      · split at hfails
        · rw [Build.bind_pure_fails] at hfails
          cases hfails
        · exact absurd hfails Build.not_pure_fails
      · exact absurd hfails Build.not_pure_fails

/-- **Where an error comes from.**  If a job fails, then it or a job that it starts at some depth
raises the error. -/
theorem exists_raises (h : j.outcome = (.error e, after)) :
    ∃ j', j.Reaches j' ∧ j'.Raises e after := by
  induction hs : j.schema using rec_occurs generalizing j with
  | step s ih =>
  rcases raises_or_starts h with hraises | ⟨j', hstarts, hfails⟩
  · exact ⟨j, .refl j, hraises⟩
  · -- what is started compiles something inside the schema
    obtain ⟨part, hpart, hocc⟩ := hstarts.exists_part
    rw [hs] at hpart
    obtain ⟨j'', hreaches, hraises⟩ := ih part hpart j'.schema hocc hfails rfl
    exact ⟨j'', hreaches.head hstarts, hraises⟩

/-- What raises an error registers nothing. -/
theorem Raises.registry_eq (h : j.Raises e after) : after.registry = j.start.registry := by
  cases h with
  | unwritable => rfl
  | refused _ _ _ registry => exact registry

/-- Whether it returns or fails, a job only registers models whose names hang from its owner. -/
theorem outcome_grows (j : Job) :
    j.start.registry.Grows (fun _ m => Registry.HangsFrom j.owner m.name)
      j.outcome.2.registry := by
  rcases hout : j.outcome with ⟨e | a, after⟩
  · obtain ⟨j', hreaches, hraises⟩ := exists_raises hout
    dsimp only
    rw [hraises.registry_eq]
    exact hreaches.grows
  · exact (j.schema.sound hout).1.imp fun _ _ hm => hm.name

/-! ## Where models come from -/

section Keeping

variable {I : Registry → Prop}

/-- What the members of an object keep, compiling them keeps. -/
theorem Opens.keeps (h : Opens k c j own t)
    (hstarts : ∀ j', j.Starts j' → I j'.start.registry → I j'.outcome.2.registry)
    (ht : I t.registry) : I ((compileMembers k c own).outcome t).2.registry := by
  have hfields :
      I ((Build.forEach (compileField own) (k.declaredFields c)).outcome t).2.registry := by
    refine Build.forEach_keeps_state (I := fun s => I s.registry) ht
      fun done f rest gs u hfs ran hu => ?_
    rw [compileField, Build.outcome_bind_pure_snd]
    exact hstarts _ (.field h hfs ran) hu
  rw [compileMembers, Build.outcome_bind]
  rcases hran : (Build.forEach (compileField own) (k.declaredFields c)).outcome t with ⟨e | gs, u⟩
  · rw [hran] at hfields
    exact hfields
  · rw [hran] at hfields
    dsimp only
    rw [Build.outcome_bind_pure_snd]
    rcases hremaining : c.remaining with _ | _ | s
    · exact hfields
    · rw [compileRemaining, Build.outcome_bind_pure_snd]
      exact hfields
    · rw [compileRemaining, Build.outcome_bind_pure_snd]
      exact hstarts _ (.further h hran hremaining) hfields

/-- What building keeps under every candidate that is tried, and storing a model keeps, a call
keeps. -/
theorem Calls.keeps (h : j.Calls r)
    (hbuild : ∀ i u, r.Tries i u → I u.registry →
      I ((r.build (r.candidate i)).outcome u).2.registry)
    (hstores : ∀ q m notices, r.outcome = (.ok m.name, ⟨Registry.addModel m q, notices⟩) → I q →
      I (q.addModel m))
    (hstart : I r.start.registry) : I r.outcome.2.registry := by
  obtain ⟨i, -, hends⟩ := Registration.exists_ends h.spares
  have htried : ∀ {u}, r.Tries i u → I u.registry := by
    intro u tried
    rw [tried.registry_eq]
    exact hstart
  rcases hout : r.outcome with ⟨result, after⟩
  rw [hout] at hends
  cases hends with
  | failed tried fails =>
    have hkept := hbuild i _ tried (htried tried)
    rw [fails] at hkept
    exact hkept
  | chosen tried built stored =>
    have hkept := hbuild i _ tried (htried tried)
    rw [built] at hkept
    cases stored with
    | fresh free => exact hstores _ _ _ hout hkept
    | shared found like => exact hkept
  | refused tried =>
    have hkept := htried tried
    exact hkept

/-- What holds of a registry when a job starts holds of the one that the job leaves, if the jobs
that it starts keep it and storing a model keeps it. -/
theorem outcome_keeps (hstarts : ∀ j', j.Starts j' → I j'.start.registry → I j'.outcome.2.registry)
    (hstores : ∀ r q m notices, j.Calls r →
      r.outcome = (.ok m.name, ⟨Registry.addModel m q, notices⟩) → I q → I (q.addModel m))
    (hstart : I j.start.registry) : I j.outcome.2.registry := by
  have hcall : ∀ {r}, j.Calls r → (∀ i u, r.Tries i u → I u.registry →
      I ((r.build (r.candidate i)).outcome u).2.registry) → I j.outcome.2.registry := by
    intro r hcalls hbuild
    rw [hcalls.outcome_snd]
    rw [← hcalls.start_eq] at hstart
    exact hcalls.keeps hbuild (fun q m notices => hstores r q m notices hcalls) hstart
  obtain ⟨s, owner, property, isItem, start⟩ := j
  cases s with
  | reference ref =>
    rw [outcome, compile, compileReference]
    split
    · exact hstart
    · exact hstart
  | inline k c =>
    cases hform : k.form c with
    | composition how ms =>
      rw [outcome, compile_inline, hform]
      dsimp only
      rw [Build.outcome_bind_pure_snd]
      refine Build.forEach_keeps_state (I := fun s => I s.registry) hstart
        fun done s rest as u hms ran hu => ?_
      rw [hms] at hform
      exact hstarts _ (.member hform ran) hu
    | negation s =>
      rw [outcome, compile_inline, hform]
      dsimp only
      rw [Build.outcome_bind_pure_snd]
      exact hstarts _ (.negated hform) hstart
    | literals =>
      cases hlisted : enumeration k with
      | error reason =>
        rw [outcome, compile_inline, hform, compileEnum, hlisted]
        exact hstart
      | ok shape =>
        by_cases hnested : isNested property isItem = true
        · exact hcall (.literals hform hnested hlisted) fun i u _ hu => hu
        · rw [Bool.not_eq_true] at hnested
          rw [outcome, compile_inline, hform, compileEnum, hlisted, hnested]
          exact hstart
    | object =>
      by_cases hnested : isNested property isItem = true
      · have hcalls : Calls ⟨.inline k c, owner, property, isItem, start⟩ _ :=
          .object hform hnested
        exact hcall hcalls fun i u tried hu =>
          (Opens.candidate hform hcalls tried).keeps hstarts hu
      · rw [outcome, compile_inline, hform, compileObject, if_neg hnested, objectFrom_eq]
        rw [Bool.not_eq_true] at hnested
        rw [syntheticName_of_not_nested hnested]
        exact (Opens.inPlace hform hnested).keeps hstarts hstart
    | array =>
      rw [outcome, compile_inline, hform]
      dsimp only
      rw [Build.outcome_bind_pure_snd]
      cases hitems : c.items with
      | none => exact hstart
      | some s => exact hstarts _ (.items hform hitems) hstart
    | scalar kind =>
      rw [outcome, compile_inline, hform]
      exact hstart
    | untyped =>
      rw [outcome, compile_inline, hform, compileUntyped]
      dsimp only
      split
      · split
        · exact hstart
        · exact hstart
      · exact hstart

end Keeping

/-- **Where a model comes from.**  Every model that a job leaves was there when it started, or was
stored by a call that the job makes or that is made by a job it starts at some depth. -/
theorem exists_stores {m : Model} (hm : m ∈ j.outcome.2.registry.models) :
    m ∈ j.start.registry.models ∨ ∃ r, j.Registers r ∧ r.Stores m := by
  suffices hkept : ∀ m ∈ j.outcome.2.registry.models,
      m ∈ j.start.registry.models ∨ ∃ r, j.Registers r ∧ r.Stores m from hkept m hm
  clear hm
  induction hs : j.schema using rec_occurs generalizing j with
  | step s ih =>
  refine outcome_keeps (I := fun q => ∀ m ∈ q.models,
    m ∈ j.start.registry.models ∨ ∃ r, j.Registers r ∧ r.Stores m) ?_ ?_ (fun _ h => Or.inl h)
  · intro j' hstarts hbefore m hm
    obtain ⟨part, hpart, hocc⟩ := hstarts.exists_part
    rw [hs] at hpart
    rcases ih part hpart j'.schema hocc rfl m hm with hm | ⟨r, ⟨j'', hreaches, hcalls⟩, hstores⟩
    · exact hbefore m hm
    · exact Or.inr ⟨r, ⟨j'', hreaches.head hstarts, hcalls⟩, hstores⟩
  · intro r q m notices hcalls hout hbefore x hx
    rcases List.mem_append.mp hx with hx | hx
    · exact hbefore x hx
    · obtain rfl := List.mem_singleton.mp hx
      exact Or.inr ⟨r, ⟨j, .refl j, hcalls⟩, q, notices, hout⟩

end Job
end Schema
end ApiCompiler
