import ApiCompiler.Document
import ApiCompiler.Registry

/-!
# Following references

Parameters, request bodies and responses may be referred to instead of written out.  A chain of
references is followed through one section of the components until an inline definition is met.
A chain that comes back to a reference it has followed before is circular; since a reference is
recognised by its text, no chain gets past one more reference than the section has entries.
-/

namespace ApiCompiler

/-- A section of the components. -/
structure Section (α : Type) where
  name : String
  entries : List (String × OrReference α)

namespace Section

/-- The parameters of a document. -/
def parameters (c : Document.Components) : Section Document.Parameter :=
  ⟨"parameters", c.parameters.getD []⟩

/-- The request bodies of a document. -/
def requestBodies (c : Document.Components) : Section Document.RequestBody :=
  ⟨"requestBodies", c.requestBodies.getD []⟩

/-- The responses of a document. -/
def responses (c : Document.Components) : Section Document.Response :=
  ⟨"responses", c.responses.getD []⟩

variable {α : Type}

/-- What every reference into the section starts with. -/
def path (s : Section α) : String := s!"#/components/{s.name}/"

/-- The names of the entries that a message offers: the first ten in order. -/
def available (s : Section α) : List String :=
  ((s.entries.map (·.1)).mergeSort (· ≤ ·)).take 10

/-- The characters that follow a given start, if the list begins with it. -/
def afterStart? : List Char → List Char → Option (List Char)
  | [], cs => some cs
  | _ :: _, [] => none
  | a :: as, c :: cs => if a = c then afterStart? as cs else none

/-- The entry that a reference target points at. -/
def find (s : Section α) (target : String) : Except ReferenceFault (OrReference α) :=
  match afterStart? "#/".toList target.toList, afterStart? s.path.toList target.toList with
  | none, _ => .error .outsideDocument
  | some _, none => .error (.outsideSection s.path)
  | some _, some segment =>
    let name := String.ofList (Reference.unescape segment)
    match lookup? name s.entries with
    | some entry => .ok entry
    | none => .error (.missing name s.available)

/-- Follows a chain of references for at most `bound` steps; `seen` are the targets followed so
far. -/
def follow (s : Section α) : Nat → List String → OrReference α → Except CompileError α
  | _, _, .inline a => .ok a
  | 0, _, .reference r => .error (.reference r.target .circular)
  | bound + 1, seen, .reference r =>
    if seen.contains r.target then .error (.reference r.target .circular)
    else
      match s.find r.target with
      | .error fault => .error (.reference r.target fault)
      | .ok next => follow s bound (r.target :: seen) next

/-- The inline definition that a chain of references leads to. -/
def resolve (s : Section α) (node : OrReference α) : Except CompileError α :=
  s.follow (s.entries.length + 2) [] node

end Section
end ApiCompiler
