import ApiCompiler.Failure
import ApiCompiler.Host
import ApiCompiler.MethodName
import ApiCompiler.Notice

/-!
# Runs

A run acts on its surroundings, reports notices, and may fail.  What was done and reported before
a failure stays.

Commands come in two kinds.  A client may have commands that run before and after its files are
written: they have to succeed.  It may have a command that names its methods: where that one fails
or prints nothing, the built-in name is taken.
-/

namespace ApiCompiler

/-- The state of a run: that of its surroundings, and what was reported. -/
structure RunState (σ : Type) where
  surroundings : σ
  notices : List Notice

/-- A step of a run. -/
abbrev Run (σ α : Type) := ExceptT Failure (StateM (RunState σ)) α

namespace Run

variable {σ α : Type}

/-- Looks at the surroundings. -/
def look (question : σ → Except Failure α) : Run σ α := do
  let s ← get
  match question s.surroundings with
  | .ok a => pure a
  | .error f => throw f

/-- Acts on the surroundings. -/
def act (action : StateM σ α) : Run σ α := do
  let s ← get
  let (a, after) := action s.surroundings
  set { s with surroundings := after }
  pure a

/-- Reports notices. -/
def report (ns : List Notice) : Run σ Unit :=
  modify fun s => { s with notices := s.notices ++ ns }

/-- A result that may be a failure. -/
def lift : Except Failure α → Run σ α
  | .ok a => pure a
  | .error f => throw f

/-- Performs a step for every item, in order. -/
def forEach {β : Type} (step : α → Run σ β) : List α → Run σ (List β)
  | [] => pure []
  | a :: as => do
    let b ← step a
    let bs ← forEach step as
    pure (b :: bs)

/-! ## Commands -/

/-- Runs a command that has to succeed; no words are no command. -/
def command (h : Host σ) (label : String) (words : List String) (directory : Path) :
    Run σ Unit := do
  if words.isEmpty then pure ()
  else
    match ← act (h.run words directory) with
    | .notStarted e => throw (.command label words none (some e.message))
    | .ended status _ =>
      if status = 0 then pure () else throw (.command label words (some status) none)

/-- The name that a command prints for an operation, if it succeeds. -/
def printedName (h : Host σ) (name : String) (op : Operation) : Run σ String := do
  match ← act (h.run [name, op.operationId.getD "", op.method, op.path] .current) with
  | .notStarted e => do
    report [.namingCommandFailed name e.message]
    pure ""
  | .ended status output =>
    pure (if status = 0 then String.ofList (Text.strip output.toList) else "")

/-- The name of an operation. -/
def methodName (h : Host σ) (command : Option String) (op : Operation) : Run σ String := do
  let printed ← match command with
    | none => pure ""
    | some name => if name.isEmpty then pure "" else printedName h name op
  pure (if printed.isEmpty then MethodName.builtIn op else printed)

end Run
end ApiCompiler
