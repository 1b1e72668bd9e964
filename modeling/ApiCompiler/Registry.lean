import ApiCompiler.Api
import ApiCompiler.Breakdown
import ApiCompiler.Notice
import ApiCompiler.Shape.Likeness

/-!
# The registry of models

A build keeps the models it has named so far, in the order in which they were named, and the set
of names that are taken.  There are two ways in.

`Registry.addComponent` appends a component under its own name, whatever is there.

`Build.registerShape` names a shape that has no name of its own.  The shape may depend on the
name, since what is hoisted out of it is named after it, so it is built anew for every candidate:
`Name`, `Name2`, `Name3` and so on.  The first candidate wins that is free or stands for a shape
that says the same.  What a rejected candidate registered is dropped again, while the notices it
caused stay.  Of `m + 1` candidates one is free when `m` models are registered, so the search is
bounded by the number of models.

A strict build refuses the second candidate.
-/

namespace ApiCompiler

/-- The models of a build and the names they have taken. -/
structure Registry where
  strict : Bool
  models : List Model
  taken : List String

namespace Registry

/-- No models yet. -/
def empty (strict : Bool) : Registry := ⟨strict, [], []⟩

/-- The first model of a name. -/
def model? (name : String) (r : Registry) : Option Model := r.models.find? fun m => m.name = name

/-- Appends a model and takes its name. -/
def addModel (m : Model) (r : Registry) : Registry :=
  { r with
    models := r.models ++ [m]
    taken := if r.taken.contains m.name then r.taken else r.taken ++ [m.name] }

/-- Appends a component under its own name. -/
def addComponent (m : Model) (r : Registry) : Registry := r.addModel m

end Registry

/-- Why a reference to a reusable definition cannot be followed. -/
inductive ReferenceFault where
  | outsideDocument
  | outsideSection (path : String)
  | missing (name : String) (available : List String)
  | circular
  deriving DecidableEq

/-- The wording of a fault. -/
def ReferenceFault.message : ReferenceFault → String
  | .outsideDocument =>
    "External references are not supported. " ++
      "Consider using a tool to bundle your OpenAPI document."
  | .outsideSection path => "Expected a reference into " ++ path
  | .missing name available =>
    let shown := ", ".intercalate available
    s!"Component '{name}' not found" ++ (if shown.isEmpty then "" else ". Available: " ++ shown)
  | .circular => "Circular reference"

/-- Why a document cannot be compiled. -/
inductive CompileError where
  | nameCollision (name : String)
  | reference (target : String) (fault : ReferenceFault)
  | breakdown (reason : Breakdown)
  deriving DecidableEq

/-- The state of a build. -/
structure BuildState where
  registry : Registry
  notices : List Notice

/-- A step of a build: it may fail, and its state is kept if it does. -/
abbrev Build (α : Type) := ExceptT CompileError (StateM BuildState) α

namespace Build

/-- The state before the first step. -/
def start (strict : Bool) : BuildState := ⟨.empty strict, []⟩

/-- Continues a build with a result that may have failed. -/
def lift {α : Type} : Except CompileError α → Build α
  | .ok a => pure a
  | .error e => throw e

/-- Reports a notice. -/
def report (n : Notice) : Build Unit :=
  modify fun s => { s with notices := s.notices ++ [n] }

/-- The registry. -/
def registry : Build Registry := do
  let s ← get
  pure s.registry

/-- Replaces the registry. -/
def setRegistry (r : Registry) : Build Unit := modify fun s => { s with registry := r }

/-- The candidates for a name: the name itself, then the name with 2, 3 and so on. -/
def candidate (name : String) (counter : Nat) : String :=
  if counter ≤ 1 then name else name ++ toString counter

/-- Stores a shape under a candidate for a name. -/
def store (name candidate : String) (shape : Shape) (notes : Annotations) : Build String := do
  if candidate != name then
    report (.renamedModel name candidate)
  let r ← registry
  setRegistry (r.addModel ⟨candidate, shape, notes⟩)
  pure candidate

/-- Tries the candidates from a counter on, at most `bound` of them besides the last one. -/
def registerFrom (name : String) (build : String → Build Shape) (notes : Annotations) :
    Nat → Nat → Build String
  | 0, counter => do
    let shape ← build (candidate name counter)
    store name (candidate name counter) shape notes
  | bound + 1, counter => do
    let before ← registry
    let shape ← build (candidate name counter)
    let now ← registry
    match now.model? (candidate name counter) with
    | none => store name (candidate name counter) shape notes
    | some existing =>
      if existing.shape.like shape then pure (candidate name counter)
      else do
        setRegistry before
        if before.strict then throw (.nameCollision name)
        else registerFrom name build notes bound (counter + 1)

/-- Names a shape that depends on its name, and returns the name it is stored under. -/
def registerShape (name : String) (build : String → Build Shape) (notes : Annotations) :
    Build String := do
  let r ← registry
  registerFrom name build notes (r.models.length + 1) 1

/-- Names a shape, and returns the name it is stored under. -/
def register (name : String) (shape : Shape) (notes : Annotations) : Build String :=
  registerShape name (fun _ => pure shape) notes

end Build
end ApiCompiler
