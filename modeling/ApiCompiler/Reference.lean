import ApiCompiler.Json.Value

/-!
# References

A reference points at a component by a path whose last segment is the component's name.  In a
segment a tilde is written `~0` and a slash `~1`.  `Reference.unescape` undoes that in one pass:
what an escape stands for is never read as the start of another one.
-/

namespace ApiCompiler

/-- A reference as a document holds it.  `nulls` are the keys that were written as null. -/
structure Reference where
  target : String
  summary : Option String
  description : Option String
  nulls : List String

namespace Reference

/-- The segment with its escapes undone. -/
def unescape : List Char → List Char
  | '~' :: '1' :: cs => '/' :: unescape cs
  | '~' :: '0' :: cs => '~' :: unescape cs
  | c :: cs => c :: unescape cs
  | [] => []

/-- The segment that stands for a name. -/
def escape : List Char → List Char
  | [] => []
  | c :: cs =>
    if c = '~' then '~' :: '0' :: escape cs
    else if c = '/' then '~' :: '1' :: escape cs
    else c :: escape cs

/-- The characters after the last slash, or all of them if there is none. -/
def lastSegment : List Char → List Char
  | [] => []
  | c :: cs => if cs.contains '/' then lastSegment cs else if c = '/' then cs else c :: cs

/-- The name of the component that a reference target points at. -/
def nameOf (target : String) : String :=
  String.ofList (unescape (lastSegment target.toList))

/-- The name of the component that a reference points at. -/
def name (r : Reference) : String := nameOf r.target

end Reference
end ApiCompiler
