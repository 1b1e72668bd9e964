import ApiCompiler.Document.Reading
import ApiCompiler.Failure

/-!
# From values to documents

Before a value is read as a document its version is looked at: a value that declares another
version is refused with one problem instead of the many that its reading would give.
-/

namespace ApiCompiler
namespace Document

/-- The version that the entries of a value declare.  The key of version 2 comes first. -/
def declaredVersion? (entries : List (Value.Scalar × Value)) : Option String :=
  ((Value.entry? "swagger" entries).or (Value.entry? "openapi" entries)).map (·.shown)

/-- Whether a version is one that can be read. -/
def isSupported (version : String) : Bool :=
  match version.toList with
  | '3' :: '.' :: _ => true
  | _ => false

/-- The problem with a version that cannot be read. -/
def unsupported (version : String) : String :=
  s!"Unsupported document version {version}, expected OpenAPI 3.x"

/-- The document that a value holds, or every problem it has. -/
def problemsOr (v : Value) : Except (List String) Document :=
  match v with
  | .map es =>
    match declaredVersion? es with
    | none => .error ["Missing 'openapi' version field"]
    | some version =>
      if isSupported version then
        match Read.document v with
        | .ok d => .ok d
        | .faulty issues => .error (issues.map Issue.message)
      else .error [unsupported version]
  | _ => .error ["Document is not a mapping"]

/-- The document that a value holds; `source` says where the value comes from. -/
def ofValue (source : String) (v : Value) : Except Failure Document :=
  (problemsOr v).mapError (.invalidDocument source)

end Document
end ApiCompiler
