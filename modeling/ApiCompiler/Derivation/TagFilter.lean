import ApiCompiler.Api
import ApiCompiler.Failure
import ApiCompiler.Pattern.Reader
import ApiCompiler.Pattern.Search

/-!
# Filtering by tags

A filter includes and excludes operations by their tags.  With a list of inclusions, a set of
tags passes only if one of them is included; a set with an excluded tag never passes.

A filter holds what its patterns find rather than the patterns themselves, so its rules hold for
any way to search a tag.
-/

namespace ApiCompiler

/-- What a filter keeps or drops: operations by all their tags, or whole services by the tag they
are grouped under. -/
inductive FilterMode where
  | operation
  | service
  deriving DecidableEq

/-- The name of a mode. -/
def FilterMode.name : FilterMode → String
  | .operation => "operation"
  | .service => "service"

/-- The mode of a name. -/
def FilterMode.ofName? (s : String) : Option FilterMode :=
  [FilterMode.operation, .service].find? fun m => m.name = s

/-- What one pattern finds. -/
abbrev TagMatch := String → Bool

/-- A filter. -/
structure TagFilter where
  included : List TagMatch
  excluded : List TagMatch
  mode : FilterMode

namespace TagFilter

/-- Reads patterns; `field` is the field they come from. -/
def readPatterns (field : Option String) : List String → Except Failure (List TagMatch)
  | [] => .ok []
  | text :: rest => do
    match Pattern.ofString text with
    | .ok p =>
      let others ← readPatterns field rest
      pure (p.search :: others)
    | .error (.fault fault) => .error (.filterPattern text field (some (fault.message text)))
    | .error (.breakdown reason) => .error (.breakdown reason)

/-- The filter of two lists of patterns. -/
def ofPatterns (included excluded : List String) (mode : FilterMode) : Except Failure TagFilter := do
  let inc ← readPatterns (some "includeTags") included
  let exc ← readPatterns (some "excludeTags") excluded
  pure ⟨inc, exc, mode⟩

/-- Whether nothing is filtered. -/
def isNoop (f : TagFilter) : Bool := f.included.isEmpty && f.excluded.isEmpty

/-- Whether one of some patterns is found in one of some tags. -/
def finds (patterns : List TagMatch) (tags : List String) : Bool :=
  tags.any fun tag => patterns.any fun p => p tag

/-- Whether a set of tags passes; no tags count as the fallback tag. -/
def accepts (f : TagFilter) (tags : List String) : Bool :=
  let tags := if tags.isEmpty then [fallbackTag] else tags
  (f.included.isEmpty || finds f.included tags) && !finds f.excluded tags

/-- The operations of a service that pass. -/
def keep (f : TagFilter) (s : Service) : List Operation :=
  match f.mode with
  | .service => if f.accepts [s.tag] then s.operations else []
  | .operation => s.operations.filter fun op => f.accepts op.effectiveTags

/-- The services with the operations that pass; services without any are dropped. -/
def apply (f : TagFilter) (services : List Service) : List Service :=
  services.filterMap fun s =>
    if (f.keep s).isEmpty then none else some ⟨s.tag, f.keep s⟩

end TagFilter
end ApiCompiler
