import ApiCompiler.Operation.Compile

/-!
# Compiling documents

A document is compiled in two passes over one registry: the component schemas in the order of
their names, then the operations, paths in order and the methods of a path in their fixed order.
A component is appended after the models hoisted out of it, so the registry lists what a model
refers to before the model that made it necessary.

Operations are grouped into services by tag.  Services come in the order of their tags, the
operations of a service in the order of path and method.
-/

namespace ApiCompiler
namespace Document

/-! ## Component schemas -/

/-- Compiles the component schemas in order and appends each under its name. -/
def compileSchemas : List (String × Schema) → Build Unit
  | [] => pure ()
  | (name, s) :: rest => do
    let shape ← s.compile name "" false
    let r ← Build.registry
    Build.setRegistry (r.addComponent ⟨name, shape, s.annotations⟩)
    compileSchemas rest

/-- Compiles all component schemas. -/
def compileModels (d : Document) : Build Unit := compileSchemas (sortedByKey d.schemas)

/-! ## Services -/

/-- The declared operations in walking order: path, path item, method and operation. -/
def declaredOperations (d : Document) : List (String × PathItem × Method × Operation) :=
  (sortedByKey d.pathItems).flatMap fun e => e.2.operations.map fun o => (e.1, e.2, o)

/-- The declared operations that have a grouping tag, each with it. -/
def groupedOperations (d : Document) (allowed : Option (List String)) :
    List (String × String × PathItem × Method × Operation) :=
  d.declaredOperations.filterMap fun o =>
    (groupingTag? (o.2.2.2.tags.getD []) allowed).map fun tag => (tag, o)

/-- Compiles the operations that have a grouping tag, in walking order. -/
def compileOperations (d : Document) (allowed : Option (List String)) :
    Build (List ApiCompiler.Operation) :=
  Build.forEach
    (fun (tag, path, item, method, op) =>
      op.compile d.parts path method.name tag (item.parameters.getD []))
    (d.groupedOperations allowed)

/-- Whether an operation comes before another one, by path and then by method. -/
def comesBefore (a b : ApiCompiler.Operation) : Bool :=
  a.path < b.path || (a.path = b.path && a.method ≤ b.method)

/-- Operations grouped by tag: services in the order of tags, operations in order. -/
def group (ops : List ApiCompiler.Operation) : List Service :=
  ((ops.map (·.tag)).eraseDups.mergeSort (· ≤ ·)).map fun tag =>
    ⟨tag, (ops.filter fun op => op.tag = tag).mergeSort comesBefore⟩

/-- Compiles the operations into services. -/
def compileServices (d : Document) (allowed : Option (List String)) : Build (List Service) := do
  let ops ← d.compileOperations allowed
  pure (group ops)

/-! ## Security schemes -/

/-- A security scheme, with the fields that matter for its type. -/
def SecurityScheme.compile (key : String) (s : SecurityScheme) : ApiCompiler.SecurityScheme :=
  if s.type = "http" then ⟨key, s.type, s.scheme, none, none, s.bearerFormat⟩
  else if s.type = "apiKey" then ⟨key, s.type, none, s.location, s.name, none⟩
  else ⟨key, s.type, none, none, none, none⟩

/-- The security schemes in the order of their keys. -/
def compileSecurity (d : Document) : List ApiCompiler.SecurityScheme :=
  (sortedByKey (d.parts.securitySchemes.getD [])).map fun e => e.2.compile e.1

/-! ## The whole document -/

/-- The steps that compile a document. -/
def build (d : Document) : Build Api := do
  d.compileModels
  let services ← d.compileServices none
  let r ← Build.registry
  pure ⟨services, r.models, d.compileSecurity⟩

/-- Compiles a document, and returns what was reported on the way. -/
def compile (d : Document) (strict : Bool) : Except CompileError Api × List Notice :=
  let (result, state) := d.build.run.run (Build.start strict)
  (result, state.notices)

end Document
end ApiCompiler
