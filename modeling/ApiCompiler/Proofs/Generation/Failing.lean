import ApiCompiler.Generation

/-!
# How generating can fail

A step of a run is a function of the state it starts in: it ends with a value or a failure, and with
the state it leaves behind.  `Run.FailsWith late m` says that the step `m`, wherever it starts,
fails with a failure of which `late` holds, if it fails at all.  The lemmas follow the ways in which
steps are put together.

A client that has been checked is generated with four kinds of failures (`Failure.IsLate`): a
command does not succeed, a directory or a file cannot be written, a strict run refuses models that
do not exist, and the type of a shape cannot be spelled.  Its target and its patterns are read once
more on the way, after its directory was made and a command may have run; that this cannot fail any
more is what the check was for (`generateClient_failsWith`).
-/

namespace ApiCompiler

/-- The failures of a client whose settings and document are in order. -/
def Failure.IsLate : Failure → Prop
  | .output _ _ => True
  | .command _ _ _ _ => True
  | .unresolvedReferences _ => True
  | .breakdown _ => True
  | _ => False

namespace Run

variable {σ α β : Type}

/-- How a step ends, and the state it leaves. -/
def outcome (m : Run σ α) (s : RunState σ) : Except Failure α × RunState σ := m.run.run s

/-- The second of two steps is performed where the first one ended, unless that failed. -/
theorem outcome_bind (m : Run σ α) (f : α → Run σ β) (s : RunState σ) :
    outcome (m >>= f) s =
      match m.outcome s with
      | (.ok a, t) => (f a).outcome t
      | (.error e, t) => (.error e, t) := by
  show (ExceptT.run (m >>= f)).run s = _
  rw [ExceptT.run_bind, StateT.run_bind, outcome]
  rcases StateT.run (ExceptT.run m) s with ⟨_ | a, t⟩ <;> rfl

theorem lift_outcome (r : Except Failure α) (s : RunState σ) : (lift r).outcome s = (r, s) := by
  cases r <;> rfl

theorem look_outcome (question : σ → Except Failure α) (s : RunState σ) :
    (look question).outcome s = (question s.surroundings, s) := by
  have hread : (look question).outcome s = Run.outcome (lift (question s.surroundings)) s := by
    unfold look lift
    rw [outcome_bind]
    rfl
  rw [hread, lift_outcome]

/-! ## Failing -/

variable {late : Failure → Prop}

/-- Wherever the step starts, it fails only in one of the given ways. -/
def FailsWith (late : Failure → Prop) (m : Run σ α) : Prop :=
  ∀ s f t, m.outcome s = (.error f, t) → late f

theorem pure_failsWith (a : α) : FailsWith late (pure a : Run σ α) := by
  intro s f t h
  cases h

theorem throw_failsWith {f : Failure} (hf : late f) : FailsWith late (throw f : Run σ α) := by
  intro s g t h
  cases h
  exact hf

theorem FailsWith.bind {m : Run σ α} {f : α → Run σ β} (hm : FailsWith late m)
    (hf : ∀ a, FailsWith late (f a)) : FailsWith late (m >>= f) := by
  intro s g t h
  rw [outcome_bind] at h
  rcases hrun : m.outcome s with ⟨e | a, u⟩
  · rw [hrun] at h
    cases h
    exact hm s _ _ hrun
  · rw [hrun] at h
    exact hf a u g t h

theorem act_failsWith (action : StateM σ α) : FailsWith late (act action) := by
  intro s f t h
  cases h

theorem report_failsWith (ns : List Notice) : FailsWith late (report ns : Run σ Unit) := by
  intro s f t h
  cases h

theorem lift_failsWith {r : Except Failure α} (hr : ∀ f, r = .error f → late f) :
    FailsWith late (lift r : Run σ α) := by
  cases r with
  | ok a => exact pure_failsWith a
  | error f => exact throw_failsWith (hr f rfl)

theorem forEach_failsWith {step : α → Run σ β} {as : List α}
    (hstep : ∀ a ∈ as, FailsWith late (step a)) : FailsWith late (forEach step as) := by
  induction as with
  | nil => exact pure_failsWith []
  | cons a as ih =>
    rw [List.forall_mem_cons] at hstep
    rw [forEach]
    exact hstep.1.bind fun b => (ih hstep.2).bind fun bs => pure_failsWith (b :: bs)

/-! ## Commands -/

theorem command_failsWith (h : Host σ) (label : String) (words : List String) (directory : Path) :
    FailsWith Failure.IsLate (command h label words directory) := by
  unfold command
  split
  · exact pure_failsWith ()
  · refine (act_failsWith _).bind fun result => ?_
    cases result with
    | notStarted e => exact throw_failsWith trivial
    | ended status output =>
      dsimp only
      split
      · exact pure_failsWith ()
      · exact throw_failsWith trivial

/-- A naming command that does not succeed is no failure: the built-in name is taken. -/
theorem methodName_failsWith (h : Host σ) (name : Option String) (op : Operation) :
    FailsWith late (methodName h name op) := by
  have hprinted : ∀ words, FailsWith late (printedName h words op) := by
    intro words
    refine (act_failsWith _).bind fun result => ?_
    cases result with
    | notStarted e => exact (report_failsWith _).bind fun _ => pure_failsWith ""
    | ended status output => exact pure_failsWith _
  unfold methodName
  cases name with
  | none => exact (pure_failsWith "").bind fun _ => pure_failsWith _
  | some words =>
    dsimp only
    split
    · exact (pure_failsWith "").bind fun _ => pure_failsWith _
    · exact (hprinted words).bind fun _ => pure_failsWith _

end Run

/-! ## Clients -/

namespace Generation

open Run (FailsWith)

variable {σ : Type}

/-- A part of a manifest fails at a type that cannot be spelled. -/
theorem part_failsWith (json : Except Breakdown Json) :
    FailsWith Failure.IsLate (Manifest.part json : Run σ Json) := by
  refine Run.lift_failsWith fun f hf => ?_
  cases json with
  | ok j => cases hf
  | error reason =>
    cases hf
    trivial

theorem manifest_failsWith (h : Host σ) (t : Target) (c : Client) (api : Api) :
    FailsWith Failure.IsLate (Manifest.build h t c api) := by
  refine (Run.forEach_failsWith fun s _ => ?_).bind fun services =>
    (part_failsWith _).bind fun models => Run.pure_failsWith _
  refine (Run.forEach_failsWith fun op _ => ?_).bind fun operations => Run.pure_failsWith _
  exact (Run.methodName_failsWith h c.namingCommand op).bind fun name => part_failsWith _

theorem writeFile_failsWith (h : Host σ) (c : Client) (name text : String) :
    FailsWith Failure.IsLate (writeFile h c name text) := by
  unfold writeFile
  dsimp only
  split
  · exact Run.pure_failsWith none
  · refine (Run.act_failsWith _).bind fun made => ?_
    cases made with
    | error e => exact Run.throw_failsWith trivial
    | ok _ =>
      refine (Run.act_failsWith _).bind fun written => ?_
      cases written with
      | error e => exact Run.throw_failsWith trivial
      | ok _ => exact Run.pure_failsWith _

theorem emit_failsWith (h : Host σ) (t : Target) (c : Client) (api : Api) :
    FailsWith Failure.IsLate (emit h t c api) :=
  (manifest_failsWith h t c api).bind fun _ => (writeFile_failsWith h c _ _).bind fun _ =>
    (writeFile_failsWith h c _ _).bind fun _ => Run.pure_failsWith _

/-- The patterns of a client that has been checked are read anew without a fault, so deriving its
description fails only where a strict run finds a model missing. -/
theorem isLate_of_derive {strict : Bool} {api : Api} {c : Client} {f : Failure}
    (hfilter : ∃ filter, c.filter = .ok filter) (h : derive strict api c = .error f) :
    f.IsLate := by
  obtain ⟨filter, hfilter⟩ := hfilter
  have hderive : api.derive strict filter = .error f := by
    unfold derive at h
    rwa [hfilter] at h
  unfold Api.derive prune at hderive
  dsimp only at hderive
  split at hderive
  · cases hderive
  · split at hderive
    · cases hderive
      exact trivial
    · cases hderive

/-- A client passes the check exactly if its target is known and its patterns can be read. -/
theorem check_eq_ok_iff {c : Client} :
    check c = .ok () ↔ (∃ t, Target.choose c.target = .ok t) ∧ ∃ filter, c.filter = .ok filter := by
  unfold check
  cases Target.choose c.target with
  | error f => simp [bind, Except.bind]
  | ok t =>
    cases c.filter with
    | error f => simp [bind, Except.bind]
    | ok filter => simp [bind, Except.bind, pure, Except.pure]

/-- **Checked clients fail late.**  Once a client has passed its check, neither its target nor its
patterns make its generation fail. -/
theorem generateClient_failsWith (h : Host σ) (strict : Bool) (api : Api) {c : Client}
    (hcheck : check c = .ok ()) : FailsWith Failure.IsLate (generateClient h strict api c) := by
  obtain ⟨⟨t, htarget⟩, hfilter⟩ := check_eq_ok_iff.mp hcheck
  unfold generateClient
  rw [htarget]
  refine (Run.pure_failsWith t).bind fun t => (Run.act_failsWith _).bind fun made => ?_
  cases made with
  | error e => exact Run.throw_failsWith trivial
  | ok _ =>
    refine (Run.command_failsWith h _ _ _).bind fun _ => ?_
    refine (Run.lift_failsWith fun f hf => isLate_of_derive hfilter hf).bind fun derived => ?_
    refine (Run.report_failsWith _).bind fun _ => (emit_failsWith h _ _ _).bind fun written => ?_
    exact (Run.command_failsWith h _ _ _).bind fun _ => Run.pure_failsWith written

/-- Checking clients in order checks every one of them. -/
theorem checkAll_eq_ok_iff {cs : List Client} :
    checkAll cs = .ok () ↔ ∀ c ∈ cs, check c = .ok () := by
  induction cs with
  | nil => simp [checkAll]
  | cons c cs ih =>
    rw [checkAll, List.forall_mem_cons, ← ih]
    cases check c with
    | error f => simp [bind, Except.bind]
    | ok _ => simp [bind, Except.bind]

end Generation
end ApiCompiler
