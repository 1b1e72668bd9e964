import ApiCompiler.Text.Quoted

/-!
# Notices

What a run reports without failing.
-/

namespace ApiCompiler

/-- A report that does not stop the run. -/
inductive Notice where
  /-- A schema that says nothing about its values, with the keywords that are not understood. -/
  | unrecognizedSchema (place : String) (keywords : List String)
  /-- A reference that names nothing. -/
  | namelessReference (target : String)
  /-- A model whose name was taken by another shape, and the name it got. -/
  | renamedModel (name stored : String)
  /-- Names of models that are referred to but do not exist. -/
  | unresolvedReferences (names : List String)
  /-- A command that names operations and could not be started. -/
  | namingCommandFailed (command reason : String)

/-- The wording of a notice. -/
def Notice.message : Notice → String
  | .unrecognizedSchema place keywords =>
    let shown := if keywords.isEmpty then "format" else ", ".intercalate keywords
    s!"Unrecognized schema at {Text.quoted place} (keywords: {shown}), using unknown type"
  | .namelessReference target =>
    s!"Reference {Text.quoted target} has no name, using unknown type"
  | .renamedModel name stored =>
    s!"Model name {Text.quoted name} is already used by a different shape, " ++
      s!"registering it as {Text.quoted stored}"
  | .unresolvedReferences names => "Unresolved model references: " ++ ", ".intercalate names
  | .namingCommandFailed command reason =>
    s!"Operation id parser {Text.quoted command} could not be started: {reason}"

end ApiCompiler
