import ApiCompiler.Proofs.Generation.Failing
import ApiCompiler.Workspace.Script

/-!
# Nothing is touched before everything is in order

A run first looks: it selects its clients, checks every one of them, loads the document and compiles
it (`Generation.prepare`).  Only then does it generate the clients, one after the other.

The generation of a client reads its target and its patterns anew, at a time when files of earlier
clients may have been written.  But all clients were checked before the first one is generated, so
that late reading finds nothing wrong, and a failure of the settings or of the document can only
come from the preparation, which touches nothing (`generate_untouched`).

What it means to touch nothing is said in two ways.  The surroundings are as they were, and a
journal of everything that the surroundings are asked to do stays empty: no directory is made, no
file is written, and no command is started, whatever it would have done.
-/

namespace ApiCompiler

/-! ## Journals -/

/-- What a run can ask its surroundings to do. -/
inductive Host.Action where
  | makeDirectories (p : Path)
  | write (p : Path) (text : String)
  | run (words : List String) (directory : Path)
  deriving DecidableEq

/-- The same surroundings with a journal of what they are asked to do. -/
def Host.journaled {σ : Type} (h : Host σ) : Host (σ × List Host.Action) where
  directory := h.directory
  read p s := h.read p s.1
  fetch address s := h.fetch address s.1
  makeDirectories p s :=
    let (result, after) := h.makeDirectories p s.1
    (result, (after, s.2 ++ [.makeDirectories p]))
  write p text s :=
    let (result, after) := h.write p text s.1
    (result, (after, s.2 ++ [.write p text]))
  run words directory s :=
    let (result, after) := h.run words directory s.1
    (result, (after, s.2 ++ [.run words directory]))

/-! ## Kinds of failures -/

namespace Failure

/-- The settings are wrong: no client is there or none of the given name, a target is not known, or
a pattern cannot be read. -/
def IsConfiguration : Failure → Prop
  | .configuration _ _ _ => True
  | .filterPattern _ _ _ => True
  | .unsupportedTarget _ _ => True
  | _ => False

/-- The document cannot be loaded, is not valid, or refers to a definition that cannot be found. -/
def IsDocument : Failure → Prop
  | .load _ _ => True
  | .invalidDocument _ _ => True
  | .reference _ _ => True
  | _ => False

/-- A name is refused. -/
def IsCollision : Failure → Prop
  | .nameCollision _ => True
  | _ => False

/-- None of these is a failure of the generation proper. -/
theorem not_isLate {f : Failure} (h : f.IsConfiguration ∨ f.IsDocument ∨ f.IsCollision) :
    ¬ f.IsLate := by
  cases f <;> simp_all [IsConfiguration, IsDocument, IsCollision, IsLate]

end Failure

namespace Generation

variable {σ : Type}

/-! ## Preparing -/

/-- What a run looks at before it does anything: its clients, all of them checked, and the compiled
document; and what is reported on the way. -/
def prepare (h : Host σ) (settings : Settings) (name : Option String) (s : σ) :
    Except Failure (List Client × Api) × List Notice :=
  match settings.selected name with
  | .error f => (.error f, [])
  | .ok clients =>
    match checkAll clients with
    | .error f => (.error f, [])
    | .ok _ =>
      match Document.load h settings.spec s with
      | .error f => (.error f, [])
      | .ok d =>
        let (result, notices) := d.compile settings.strict
        ((result.mapError Failure.ofCompileError).map fun api => (clients, api), notices)

/-- Generates clients one after the other. -/
def generateAll (h : Host σ) (strict : Bool) (clients : List Client) (api : Api) :
    Run σ (List (String × List String)) :=
  Run.forEach
    (fun c => do
      let written ← generateClient h strict api c
      pure (c.name, written))
    clients

/-- What is prepared has been checked. -/
theorem checkAll_of_prepare {h : Host σ} {settings : Settings} {name : Option String} {s : σ}
    {clients : List Client} {api : Api} {notices : List Notice}
    (hprepare : prepare h settings name s = (.ok (clients, api), notices)) :
    checkAll clients = .ok () := by
  unfold prepare at hprepare
  split at hprepare
  · cases hprepare
  · split at hprepare
    · cases hprepare
    · case h_2 checked hcheck =>
      split at hprepare
      · cases hprepare
      · rcases hcompiled : Document.compile _ settings.strict with ⟨_ | compiled, reported⟩
        · rw [hcompiled] at hprepare
          cases hprepare
        · rw [hcompiled] at hprepare
          cases hprepare
          exact hcheck

theorem compile_outcome (d : Document) (strict : Bool) (s : RunState σ) :
    (compile d strict).outcome s =
      ((d.compile strict).1.mapError Failure.ofCompileError,
        ⟨s.surroundings, s.notices ++ (d.compile strict).2⟩) := by
  unfold compile
  rw [Run.outcome_bind]
  show Run.outcome (Run.lift _) _ = _
  rw [Run.lift_outcome]

/-- A run prepares, and generates what it has prepared. -/
theorem generate_outcome (h : Host σ) (settings : Settings) (name : Option String)
    (s : RunState σ) :
    (generate h settings name).outcome s =
      match prepare h settings name s.surroundings with
      | (.error f, notices) => (.error f, ⟨s.surroundings, s.notices ++ notices⟩)
      | (.ok (clients, api), notices) =>
        (generateAll h settings.strict clients api).outcome
          ⟨s.surroundings, s.notices ++ notices⟩ := by
  have hnothing : s = ⟨s.surroundings, s.notices ++ []⟩ := by rw [List.append_nil]
  unfold generate prepare
  simp only [Run.outcome_bind, Run.lift_outcome, Run.look_outcome, compile_outcome]
  cases settings.selected name with
  | error f => exact congrArg (Prod.mk _) hnothing
  | ok clients =>
    dsimp only
    cases checkAll clients with
    | error f => exact congrArg (Prod.mk _) hnothing
    | ok _ =>
      dsimp only
      cases Document.load h settings.spec s.surroundings with
      | error f => exact congrArg (Prod.mk _) hnothing
      | ok d =>
        dsimp only
        cases (d.compile settings.strict).1 with
        | error e => rfl
        | ok api => rfl

/-- **Failing late.**  What has been prepared is generated without a failure of the settings or of
the document. -/
theorem generateAll_failsWith {h : Host σ} {strict : Bool} {clients : List Client} {api : Api}
    (hchecked : checkAll clients = .ok ()) :
    Run.FailsWith Failure.IsLate (generateAll h strict clients api) := by
  refine Run.forEach_failsWith fun c hc => ?_
  have hcheck := checkAll_eq_ok_iff.mp hchecked c hc
  exact (generateClient_failsWith h strict api hcheck).bind fun _ => Run.pure_failsWith _

/-- A run that ends with a failure of its settings or its document ends with that of its
preparation. -/
theorem prepare_of_generate {h : Host σ} {settings : Settings} {name : Option String}
    {before after : RunState σ} {f : Failure}
    (hf : f.IsConfiguration ∨ f.IsDocument ∨ f.IsCollision)
    (hrun : (generate h settings name).outcome before = (.error f, after)) :
    ∃ notices, prepare h settings name before.surroundings = (.error f, notices) ∧
      after = ⟨before.surroundings, before.notices ++ notices⟩ := by
  rw [generate_outcome] at hrun
  rcases hprepare : prepare h settings name before.surroundings with ⟨e | ⟨clients, api⟩, notices⟩
  · rw [hprepare] at hrun
    cases hrun
    exact ⟨notices, rfl, rfl⟩
  · rw [hprepare] at hrun
    have hlate := generateAll_failsWith (checkAll_of_prepare hprepare) _ _ _ hrun
    exact absurd hlate (Failure.not_isLate hf)

/-- **Nothing is touched.**  If a run fails because its settings are wrong, because its document is,
or because a name is refused, its surroundings are as they were.  With a journal of what they are
asked to do the run fails alike, and nothing is entered. -/
theorem generate_untouched (h : Host σ) (settings : Settings) (name : Option String)
    {before after : RunState σ} {f : Failure}
    (hf : f.IsConfiguration ∨ f.IsDocument ∨ f.IsCollision)
    (hrun : (generate h settings name).outcome before = (.error f, after)) :
    after.surroundings = before.surroundings ∧
      ∀ journal, (generate h.journaled settings name).outcome
          ⟨(before.surroundings, journal), before.notices⟩ =
        (.error f, ⟨(before.surroundings, journal), after.notices⟩) := by
  obtain ⟨notices, hprepare, rfl⟩ := prepare_of_generate hf hrun
  refine ⟨rfl, fun journal => ?_⟩
  have hjournaled : prepare h.journaled settings name (before.surroundings, journal) =
      (.error f, notices) :=
    hprepare
  rw [generate_outcome, hjournaled]

/-! ## A client with a faulty pattern after one without -/

namespace Shops

/-- A client whose settings are in order, with a command to run in its directory. -/
def web : Client :=
  { target := "typescript"
    outDir := "web"
    packageName := "shop"
    moduleName := none
    name := "web"
    includeTags := []
    excludeTags := []
    filterMode := .operation
    namingCommand := none
    preCommand := ["mkdir", "assets"]
    postCommand := []
    defaultBaseURL := none
    exclude := [] }

/-- A client with a group that is left open in a pattern. -/
def admin : Client := { web with name := "admin", outDir := "admin", excludeTags := ["("] }

def settings : Settings := ⟨"shop.yaml", none, [web, admin], false⟩

/-- An empty tree. -/
def tree : Workspace := ⟨⟨1, ["work"]⟩, []⟩

def host : Host Workspace := Workspace.host tree.directory fun _ => .error "offline"

/-- The failure of the pattern. -/
def openGroup : Failure :=
  .filterPattern "(" (some "excludeTags") (some "missing ), unterminated subpattern at position 0")

/-- The second client is refused before anything is done for the first. -/
theorem admin_refused :
    openGroup.IsConfiguration ∧
      (generate host settings none).outcome ⟨tree, []⟩ = (.error openGroup, ⟨tree, []⟩) ∧
      (generate host.journaled settings none).outcome ⟨(tree, []), []⟩ =
        (.error openGroup, ⟨(tree, []), []⟩) := by
  have hkind : openGroup.IsConfiguration := trivial
  have hrun : (generate host settings none).outcome ⟨tree, []⟩ = (.error openGroup, ⟨tree, []⟩) :=
    rfl
  obtain ⟨-, hjournal⟩ := generate_untouched host settings none (.inl hkind) hrun
  exact ⟨hkind, hrun, hjournal []⟩

end Shops
end Generation
end ApiCompiler
